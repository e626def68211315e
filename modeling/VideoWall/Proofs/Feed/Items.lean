import VideoWall.Feed.Items

/-!
# What every item of a feed carries

Whatever an entry says about its time, its item carries a timestamp with an offset
(`Document.kind_of_mem_items`). Where the clock stands still, the items are those of the presentable
entries (`Document.items_of_stopped`). Reading the items never reports that a feed has failed.
-/

namespace VideoWall

/-! ## 1. Reports of failed feeds -/

def Notice.isFeedError (n : Notice) : Bool :=
  n.topic == .feeds && n.severity == .error

namespace Logged

variable {α β : Type}

def feedErrors (x : Logged α) : List Notice :=
  x.notices.filter Notice.isFeedError

@[simp] theorem feedErrors_pure (a : α) : (pure a : Logged α).feedErrors = [] := rfl

@[simp] theorem feedErrors_bind (x : Logged α) (f : α → Logged β) :
    (x >>= f).feedErrors = x.feedErrors ++ (f x.value).feedErrors :=
  List.filter_append _ _

theorem feedErrors_say {n : Notice} (h : n.isFeedError = false) : (say n).feedErrors = [] :=
  List.filter_eq_nil_iff.mpr fun m hm => by
    rw [List.mem_singleton.mp hm, h]
    exact Bool.false_ne_true

theorem feedErrors_sayAll_map {f : α → Notice} (h : ∀ a, (f a).isFeedError = false) (xs : List α) :
    (sayAll (xs.map f)).feedErrors = [] := by
  apply List.filter_eq_nil_iff.mpr
  intro n hn
  obtain ⟨a, -, rfl⟩ := List.mem_map.mp hn
  rw [h a]
  exact Bool.false_ne_true

theorem feedErrors_say_feedFailed (p : Provider) (source : String) (f : Failure) :
    (say (.feedFailed p source f)).feedErrors = [.feedFailed p source f] := rfl

end Logged

/-! ## 2. Timestamps with an offset -/

theorem Layout.Fields.isZoned_of_stamp? {f : Fields} {t : Stamp} (h : f.stamp? = some t) :
    t.isZoned = true := by
  unfold stamp? at h
  obtain ⟨date, -, h⟩ := Option.bind_eq_some_iff.mp h
  obtain ⟨time, -, h⟩ := Option.bind_eq_some_iff.mp h
  obtain ⟨offset, -, h⟩ := Option.bind_eq_some_iff.mp h
  obtain rfl := Option.some.inj h
  rfl

namespace Stamp

/-- A timestamp of a provider carries an offset: that of its text, or none behind universal time. -/
theorem isZoned_of_read? {p : Provider} {raw : String} {t : Stamp} (h : read? p raw = some t) :
    t.isZoned = true := by
  unfold read? at h
  dsimp only at h
  split at h
  · cases h
  · obtain ⟨layout, -, h⟩ := List.exists_of_findSome?_eq_some h
    obtain ⟨f, -, h⟩ := Option.bind_eq_some_iff.mp h
    exact f.isZoned_of_stamp? h

theorem value_readOrNow (now : Stamp) (p : Provider) (raw : String) :
    (readOrNow now p (some raw)).value = (read? p raw).getD now := by
  unfold readOrNow
  rw [Option.bind_some]
  cases read? p raw with
  | none => rfl
  | some t => rfl

theorem isZoned_readOrNow {now : Stamp} (hnow : now.isZoned = true) (p : Provider)
    (raw : Option String) : (readOrNow now p raw).value.isZoned = true := by
  unfold readOrNow
  split
  next t ht =>
    obtain ⟨text, -, h⟩ := Option.bind_eq_some_iff.mp ht
    exact isZoned_of_read? h
  next => exact hnow

theorem feedErrors_readOrNow (now : Stamp) (p : Provider) (raw : Option String) :
    (readOrNow now p raw).feedErrors = [] := by
  unfold readOrNow
  split
  · rfl
  · rfl

theorem isZoned_of_offset {t : Stamp} {z : ZoneOffset} (h : t.offset = some z) :
    t.isZoned = true := by
  rw [isZoned, h]
  rfl

end Stamp

theorem VideoLink.feedErrors_viaTemplate (link template param : String) :
    (viaTemplate link template param).feedErrors = [] := by
  unfold viaTemplate
  split
  · rfl
  · split
    · rfl
    · rfl

/-! ## 3. Entries and documents -/

namespace Feed

variable {now : Nat → Stamp} {p : Provider} {d : Document} {template : String}

theorem Entry.kind_toItem {t : Stamp} (ht : t.isZoned = true) (p : Provider) (d : Document)
    (template : String) (e : Entry) : (e.toItem t p d template).value.kind = .zoned := by
  unfold Entry.toItem
  cases p with
  | youtube =>
    show (if (Stamp.readOrNow t .youtube (some e.published)).value.isZoned then Item.Kind.zoned
      else .zoneless) = .zoned
    rw [Stamp.isZoned_readOrNow ht, if_pos rfl]
  | rumble =>
    show (if (Stamp.readOrNow t .rumble (some e.published)).value.isZoned then Item.Kind.zoned
      else .zoneless) = .zoned
    rw [Stamp.isZoned_readOrNow ht, if_pos rfl]

theorem Entry.feedErrors_toItem (t : Stamp) (p : Provider) (d : Document) (template : String)
    (e : Entry) : (e.toItem t p d template).feedErrors = [] := by
  unfold Entry.toItem
  cases p with
  | youtube =>
    simp only [Logged.feedErrors_bind, VideoLink.feedErrors_viaTemplate, Stamp.feedErrors_readOrNow,
      Logged.feedErrors_pure, List.append_nil]
  | rumble =>
    simp only [Logged.feedErrors_bind, Stamp.feedErrors_readOrNow, Logged.feedErrors_pure,
      List.append_nil]

theorem kind_of_mem_itemsOf {es : List Entry} (hnow : ∀ n, (now n).isZoned = true) :
    ∀ i ∈ (itemsOf now p d template es).value, i.kind = .zoned := by
  induction es generalizing now with
  | nil => exact fun i hi => absurd hi List.not_mem_nil
  | cons e es ih =>
    have hrest := ih fun n => hnow (n + 1)
    intro i hi
    rw [itemsOf] at hi
    split at hi
    · rcases List.mem_cons.mp hi with rfl | hi
      · exact e.kind_toItem (hnow 0) p d template
      · exact hrest i hi
    · exact hrest i hi

theorem Document.kind_of_mem_items (hnow : ∀ n, (now n).isZoned = true) :
    ∀ i ∈ (d.items now p template).value, i.kind = .zoned :=
  kind_of_mem_itemsOf hnow

theorem feedErrors_itemsOf (now : Nat → Stamp) (p : Provider) (d : Document) (template : String)
    (es : List Entry) : (itemsOf now p d template es).feedErrors = [] := by
  induction es generalizing now with
  | nil => rfl
  | cons e es ih =>
    rw [itemsOf]
    split
    · simp only [Logged.feedErrors_bind, Entry.feedErrors_toItem, ih, Logged.feedErrors_pure,
        List.append_nil]
    · rw [Logged.feedErrors_bind, Logged.feedErrors_say rfl, ih, List.append_nil]

theorem value_itemsOf (now : Nat → Stamp) (p : Provider) (d : Document) (template : String)
    (es : List Entry) (k : Nat) :
    (itemsOf (fun n => now (n + k)) p d template es).value =
      ((es.zipIdx k).filter (·.1.isPresentable p)).map
        fun e => (e.1.toItem (now e.2) p d template).value := by
  induction es generalizing k with
  | nil => rfl
  | cons e es ih =>
    have hrest := ih (k + 1)
    have hclock : (fun n => now (n + 1 + k)) = fun n => now (n + (k + 1)) := by
      funext n
      rw [Nat.add_right_comm, Nat.add_assoc]
    rw [itemsOf, List.zipIdx_cons, List.filter_cons]
    by_cases h : e.isPresentable p = true
    · rw [if_pos h, if_pos h, List.map_cons, ← hrest, ← hclock]
      show (e.toItem (now (0 + k)) p d template).value :: _ = _
      rw [Nat.zero_add]
    · rw [if_neg h, if_neg h, ← hrest, ← hclock]
      rfl

theorem value_itemsOf_append (now : Nat → Stamp) (p : Provider) (d : Document) (template : String)
    (before behind : List Entry) :
    (itemsOf now p d template (before ++ behind)).value =
      (itemsOf now p d template before).value ++
        (itemsOf (fun n => now (n + before.length)) p d template behind).value := by
  have hall := value_itemsOf now p d template (before ++ behind) 0
  have hbefore := value_itemsOf now p d template before 0
  have hbehind := value_itemsOf now p d template behind before.length
  rw [List.zipIdx_append, List.filter_append, List.map_append, Nat.zero_add] at hall
  rw [hbehind]
  exact hall.trans (congrArg (· ++ _) hbefore.symm)

/-- The items of the entries of a document that have the texts that it takes, in order. -/
def Document.presented (t : Stamp) (p : Provider) (template : String) (d : Document) : List Item :=
  (d.entries.filter (·.isPresentable p)).map fun e => (e.toItem t p d template).value

theorem Document.items_of_stopped (t : Stamp) (p : Provider) (template : String) (d : Document) :
    (d.items (fun _ => t) p template).value = d.presented t p template := by
  have hplaces : d.entries = d.entries.zipIdx.map Prod.fst := (List.zipIdx_map_fst 0 _).symm
  unfold presented
  rw [hplaces, List.filter_map, List.map_map]
  exact value_itemsOf (fun _ => t) p d template d.entries 0

end Feed

end VideoWall
