import VideoWall.Feed.Raising

/-!
# Nothing is raised on the way to items

Whatever the texts of a document are, turning it into items raises nothing: every bad value is caught
where it comes up, and the items and notices are those of the functions that name no exceptions. Main
statement: `items_eq`.
-/

namespace VideoWall.Raising

theorem lift_bind {α β : Type} (x : Logged α) (f : α → Logged β) :
    (ExceptT.lift (x >>= f) : Attempt β) = ExceptT.lift x >>= fun a => ExceptT.lift (f a) := by
  show (monadLift (x >>= f) : Attempt β) = monadLift x >>= fun a => monadLift (f a)
  exact monadLift_bind x f

/-! ## 1. Timestamps -/

theorem stamp_cases (f : Layout.Fields) :
    (∃ t, stamp f = .ok t ∧ f.stamp? = some t) ∨
      ∃ e : Raised, stamp f = .error e ∧ e.isBadValue = true ∧ f.stamp? = none := by
  unfold stamp Layout.Fields.stamp?
  cases Date.of? f.year f.month f.day with
  | none => exact .inr ⟨_, rfl, rfl, rfl⟩
  | some date =>
    cases ZoneOffset.of? f.offset with
    | none =>
      -- The offset is looked at before the time of day here, and after it in the other function.
      refine .inr ⟨_, rfl, rfl, ?_⟩
      cases TimeOfDay.of? f.hour f.minute f.second 0 with
      | none => rfl
      | some time => rfl
    | some offset =>
      cases TimeOfDay.of? f.hour f.minute f.second 0 with
      | none => exact .inr ⟨_, rfl, rfl, rfl⟩
      | some time => exact .inl ⟨_, rfl, rfl⟩

theorem readIn_cases (layout : Layout) (cs : List Char) :
    (∃ t, readIn layout cs = .ok t ∧ Layout.stamp? layout cs = some t) ∨
      ∃ e : Raised, readIn layout cs = .error e ∧ e.isBadValue = true ∧
        Layout.stamp? layout cs = none := by
  unfold readIn Layout.stamp?
  cases Layout.readOnto? {} cs layout with
  | none => exact .inr ⟨_, rfl, rfl, rfl⟩
  | some f => exact stamp_cases f

theorem readInAny_eq (cs : List Char) (layouts : List Layout) :
    readInAny cs layouts = .ok (layouts.findSome? (Layout.stamp? · cs)) := by
  induction layouts with
  | nil => rfl
  | cons layout layouts ih =>
    rw [readInAny, List.findSome?_cons]
    rcases readIn_cases layout cs with ⟨t, hread, hstamp⟩ | ⟨e, hread, hbad, hstamp⟩
    · rw [hread, hstamp]
    · rw [hread, hstamp]
      dsimp only
      rw [if_pos hbad, ih]

theorem stamp?_nil (p : Provider) : (Layout.ofProvider p).findSome? (Layout.stamp? · []) = none := by
  cases p with
  | youtube => rfl
  | rumble => rfl

theorem read_eq (p : Provider) (raw : Option String) :
    (if Text.trim (raw.getD "") = "" ∨ Text.trim (raw.getD "") = Stamp.invalidDateText then
        (.ok none : Except Raised (Option Stamp))
      else readInAny (Text.trim (raw.getD "")).toList (Layout.ofProvider p)) =
      .ok (raw.bind (Stamp.read? p)) := by
  rw [readInAny_eq]
  cases raw with
  | none => rfl
  | some text =>
    unfold Stamp.read?
    simp only [Option.getD_some, Option.bind_some, beq_iff_eq]
    by_cases hinvalid : Text.trim text = Stamp.invalidDateText
    · rw [if_pos (.inr hinvalid), if_pos hinvalid]
    · rw [if_neg hinvalid]
      -- One function sets empty texts aside, the other has them fit no layout.
      by_cases hempty : Text.trim text = ""
      · rw [if_pos (.inl hempty), hempty]
        exact congrArg _ (stamp?_nil p).symm
      · rw [if_neg (not_or.mpr ⟨hempty, hinvalid⟩)]

theorem readOrNow_eq (now : Stamp) (p : Provider) (raw : Option String) :
    readOrNow now p raw = ExceptT.lift (Stamp.readOrNow now p raw) := by
  unfold readOrNow Stamp.readOrNow
  dsimp only
  rw [read_eq]
  cases raw.bind (Stamp.read? p) with
  | none => rfl
  | some t => rfl

/-! ## 2. Links and items -/

theorem viaTemplate_eq (link template param : String) :
    viaTemplate link template param = ExceptT.lift (VideoLink.viaTemplate link template param) := by
  unfold viaTemplate VideoLink.viaTemplate VideoLink.through VideoLink.id
  by_cases htemplate : template.isEmpty = true
  · rw [if_pos htemplate, if_pos htemplate]
    rfl
  · rw [if_neg htemplate, if_neg htemplate]
    cases Url.query link.toList with
    | ok query => rfl
    | error fault => rfl

theorem toItem_eq (now : Stamp) (p : Provider) (d : Feed.Document) (template : String)
    (e : Feed.Entry) :
    toItem now p d template e = ExceptT.lift (e.toItem now p d template) := by
  unfold toItem Feed.Entry.toItem
  cases p with
  | youtube =>
    simp only [viaTemplate_eq, readOrNow_eq, lift_bind]
    rfl
  | rumble =>
    simp only [readOrNow_eq, lift_bind]
    rfl

theorem itemsOf_eq (now : Nat → Stamp) (p : Provider) (d : Feed.Document) (template : String)
    (es : List Feed.Entry) :
    itemsOf now p d template es = ExceptT.lift (Feed.itemsOf now p d template es) := by
  induction es generalizing now with
  | nil => rfl
  | cons e es ih =>
    rw [itemsOf, Feed.itemsOf]
    by_cases h : e.isPresentable p = true
    · rw [if_pos h, if_pos h, toItem_eq]
      simp only [ih, lift_bind]
      rfl
    · rw [if_neg h, if_neg h, ih, lift_bind]
      rfl

/-- Turning a document into items raises nothing, whatever its texts are. -/
theorem items_eq (now : Nat → Stamp) (p : Provider) (template : String) (d : Feed.Document) :
    items now p template d = ExceptT.lift (d.items now p template) :=
  itemsOf_eq now p d template d.entries

end VideoWall.Raising
