import VideoWall.Feed.Document

/-!
# Drafts

What is known so far about a feed, an entry or one of the other things that a feed describes. Facts
are put into a draft as the elements that state them end.
-/

namespace VideoWall.Feed

structure Person where
  name : Option String := none
  email : Option String := none
  address : Option String := none
deriving DecidableEq, Repr

inductive PersonField where
  | name
  | email
  | address
deriving DecidableEq, Repr

namespace Person

def isUnknown (p : Person) : Bool :=
  p.name.isNone && p.email.isNone && p.address.isNone

def set (p : Person) : PersonField → String → Person
  | .name, v => { p with name := some v }
  | .email, v => { p with email := some v }
  | .address, v => { p with address := some v }

/-- How a person is called: by the name, with the email address in parentheses if there is one, or by
the email address alone. -/
def signature? (p : Person) : Option String :=
  let name := p.name.getD ""
  let email := p.email.getD ""
  if !name.isEmpty && !email.isEmpty then some (name ++ " (" ++ email ++ ")")
  else if !name.isEmpty then some name
  else if !email.isEmpty then some email
  else none

end Person

structure Draft where
  title : Option String := none
  link : Option String := none
  id : Option String := none
  published : Option String := none
  author : Option String := none
  authorAddress : Option String := none
  lastAuthor : Option Person := none
  thumbnails : List (Option String) := []
  image : Option String := none
  /-- How deep the elements stood that stated the facts. -/
  depths : List (String × Int) := []
deriving DecidableEq, Repr

namespace Draft

def set (d : Draft) (name value : String) : Draft :=
  match name with
  | "title" => { d with title := some value }
  | "link" => { d with link := some value }
  | "id" => { d with id := some value }
  | "published" => { d with published := some value }
  | "author" => { d with author := some value }
  | _ => d

/-- States the fact of a name unless an element further out has stated it before. -/
def setAt (d : Draft) (depth : Int) (name value : String) : Draft :=
  match d.depths.lookup name with
  | some known =>
    if depth ≤ known then
      { d.set name value with depths := (name, depth) :: d.depths.filter (·.1 != name) }
    else d
  | none => { d.set name value with depths := (name, depth) :: d.depths }

/-- Lets the author be what the last author is called. An author of whom nothing is known is called
by the text that stands for the author. -/
def signed (d : Draft) : Draft :=
  let person := d.lastAuthor.getD {}
  if person.isUnknown then
    match d.author with
    | some a =>
      if a.isEmpty then d
      else { d with lastAuthor := d.lastAuthor.map (·.set .name a) }
    | none => d
  else match person.signature? with
    | some a => { d with author := some a }
    | none => d

/-- Notes something about the last author. What is known of a publisher is noted there too, its
address aside. -/
def notePerson (d : Draft) (ofPublisher : Bool) (field : PersonField) (value : String) : Draft :=
  let d := if field = .address && !ofPublisher then { d with authorAddress := some value } else d
  let d := d.signed
  { d with lastAuthor := some ((d.lastAuthor.getD {}).set field value) }

/-- Gives the last thumbnail an address, if it has none. -/
def addressThumbnail (d : Draft) (url : String) : Draft :=
  match d.thumbnails.reverse with
  | none :: rest => { d with thumbnails := rest.reverse ++ [some url] }
  | _ => d

def entryFacts (d : Draft) : EntryFacts where
  title := d.title
  published := d.published
  link := d.link
  id := d.id
  thumbnails := d.thumbnails
  image := d.image

end Draft

end VideoWall.Feed
