import VideoWall.Feed.Builder

/-!
# Elements of a feed

What the start and the end of an element do, by the part that the element plays. Elements inside of
text for readers are part of that text when they start; their ends are still looked at, as the text may
end with them.
-/

namespace VideoWall.Feed

/-- The attributes of an element, each name once. -/
abbrev Attributes := List (String × String)

namespace Attributes

/-- The attributes with names in lower case; of two with the same name the later one counts. Words of
a fixed vocabulary are in lower case too. -/
def ofList (isLenient : Bool) (attributes : List (String × String)) : Attributes :=
  attributes.foldl
    (fun acc (name, value) =>
      let key := Builder.lower name
      let value := if key == "rel" || key == "type" then Builder.lower value else value
      let value :=
        if isLenient then
          String.ofList (Text.replaceAll "&amp;".toList ['&'] value.toList)
        else value
      put acc key value)
    []

def filled? (a : Attributes) (name : String) : Option String :=
  (a.lookup name).filter (!·.isEmpty)

def address? (a : Attributes) : Option String :=
  let first := (a.lookup "url") <|> (a.lookup "uri") <|> (a.lookup "href")
  (first.filter (!·.isEmpty)) <|> (a.lookup "href")

def written (a : Attributes) : List Char :=
  a.flatMap fun (name, value) =>
    ' ' :: name.toList ++ '=' :: '"' :: Text.replaceAll ['"'] "&quot;".toList value.toList ++ ['"']

end Attributes

def afterFirstColon (tag : String) : String :=
  match Text.cutAt? (· == ':') tag.toList with
  | some (_, rest) => String.ofList rest
  | none => tag

def afterLastColon (tag : String) : String :=
  String.ofList (tag.toList.reverse.takeWhile (· != ':')).reverse

namespace Builder

/-- The short name of the namespace of an element, and the name by which its part is known. -/
def known (b : Builder) (tag : String) : String × String :=
  match Text.cutAt? (· == ':') tag.toList with
  | some (q, rest) =>
    let q := String.ofList q
    let short := (b.qualifiers.lookup q).getD q
    (short, if short.isEmpty then String.ofList rest else short ++ "_" ++ String.ofList rest)
  | none => ("", tag)

/-! ## 1. Parts -/

def finishLink (b : Builder) : Builder := (b.finishText "link").2

/-- Starts a link. With an address it is complete, and counts if it leads to the thing itself. -/
def startLink (b : Builder) (a : Attributes) : Builder :=
  match a.address? with
  | none => b.collect "link" b.isInside
  | some address =>
    let rel := (a.lookup "rel").getD "alternate"
    let type := typeOf ((a.lookup "type").getD (if rel == "self" then "application/atom+xml" else htmlType))
    if rel == "alternate" && (type == htmlType || type == xhtmlType) then
      b.describe (·.set "link" (String.ofList (withoutExtraSlashes address.toList)))
    else b

/-- Takes the address that an entry or a channel gives of itself. -/
def linkItself (b : Builder) (a : Attributes) : Builder :=
  match a.lookup "href" with
  | some address => ((b.startLink []).addPiece address.toList).finishLink
  | none => b

def startItem (b : Builder) (a : Attributes) : Builder :=
  let b := { b with entries := {} :: b.entries }.collect "item" false
  let b := { b with inEntry := true, idIsLink := false, titleDepth := -1 }
  let b := match a.filled? "rdf:about" with
    | some id => b.describe (·.set "id" id)
    | none => b
  b.linkItself a

def startPicture (b : Builder) : Builder :=
  let picture := if b.describesFeed then some (b.picture.getD {}) else b.picture
  { b with picture, inPicture := true, titleDepth := -1 }.collect "image" false

def startCover (b : Builder) (a : Attributes) : Builder :=
  let b := b.collect "itunes_image" false
  match (a.filled? "href") <|> (a.filled? "url") with
  | none => b
  | some address =>
    if b.describesFeed then { b with picture := some {} }
    else b.describe fun d => { d with image := some address }

def notePerson (b : Builder) (field : PersonField) (text : Option (List Char)) : Builder :=
  let value := String.ofList (text.getD [])
  if b.inPublisher && field ≠ .address then b.describe (·.notePerson true field value)
  else if b.inAuthor then b.describe (·.notePerson false field value)
  else b

def finishTitle (b : Builder) (ofMedium : Bool) : Builder :=
  let (text, b) := b.finishProse "title"
  if ofMedium || (text.getD []).isEmpty then b else { b with titleDepth := b.depth }

/-- Ends an identifier, which may be the link of the thing too. -/
def finishId (b : Builder) : Builder :=
  let (text, b) := b.finishText "id"
  if b.idIsLink then
    b.describe fun d => { d with link := d.link <|> some (String.ofList (text.getD [])) }
  else b

def finishThumbnail (b : Builder) : Builder :=
  let (text, b) := b.finishText "url"
  match text with
  | some cs => if cs.isEmpty then b else b.describe (·.addressThumbnail (String.ofList cs))
  | none => b

def startRole (b : Builder) (role : Role) (name : String) (a : Attributes) : Builder :=
  match role with
  | .rss =>
    if b.format.startsWith "rss" then b
    else { b with format := rssFormat ((a.lookup "version").getD "") }
  | .feed =>
    let b := { b with inFeed := true }
    if b.format.isEmpty then { b with format := atomFormat ((a.lookup "version").getD "") } else b
  | .channel => { b with inFeed := true }.linkItself a
  | .item => b.startItem a
  | .picture => b.startPicture
  | .textInput => { b with inTextInput := true, titleDepth := -1 }.collect "textinput" false
  | .source => { b.collect "source" true with inSource := true, titleDepth := -1 }
  | .title _ => b.startProse "title" ((a.lookup "type").getD plainType) b.isInside
  | .link => b.startLink a
  | .id => { b with idIsLink := (a.lookup "ispermalink").getD "true" == "true" }.collect "id" true
  | .published => b.collect "published" true
  | .author =>
    ({ b with inAuthor := true }.collect "author" true).describe
      fun d => { d with lastAuthor := some {} }
  | .contributor => { b with inContributor := true }.collect "contributor" false
  | .namedContributor => { b with inContributor := true }.collect "name" false
  | .owner => { b with inPublisher := true }.collect "publisher" false
  | .name => b.collect "name" false
  | .address => b.collect "href" true
  | .email => b.collect "email" false
  | .thumbnail =>
    (b.collect "url" true).describe
      fun d => { d with thumbnails := d.thumbnails ++ [a.lookup "url"] }
  | .cover => b.startCover a
  | .group => b
  | .prose tag type => b.startProse tag ((a.lookup "type").getD type) true
  | .unknown => if a.isEmpty then b.collect name true else b

def finishRole (b : Builder) (role : Role) (name : String) : Builder :=
  match role with
  | .feed | .channel => { b with inFeed := false }
  | .item => { (b.finishText "item").2 with inEntry := false }
  | .picture => { (b.finishText "image").2 with inPicture := false }
  | .textInput => { (b.finishText "textinput").2 with inTextInput := false }
  | .source => { ({ b with inSource := false }.finishText "source").2 with source := {} }
  | .title ofMedium => b.finishTitle ofMedium
  | .link => b.finishLink
  | .id => b.finishId
  | .published => (b.finishText "published").2
  | .author => { (b.finishText "author").2 with inAuthor := false }.describe Draft.signed
  | .contributor => { (b.finishText "contributor").2 with inContributor := false }
  | .namedContributor =>
    let (text, b) := b.finishText "name"
    { b.notePerson .name text with inContributor := false }
  | .owner => { (b.finishText "publisher").2 with inPublisher := false }
  | .name =>
    let (text, b) := b.finishText "name"
    b.notePerson .name text
  | .address =>
    let (text, b) := b.finishText "href"
    b.notePerson .address text
  | .email =>
    let (text, b) := b.finishText "email"
    b.notePerson .email text
  | .thumbnail => b.finishThumbnail
  | .prose tag _ => (b.finishProse tag).2
  | .rss | .cover | .group | .unknown => (b.finishText name).2

/-! ## 2. Elements -/

/-- Whether an element is a mere division of text for readers that is no vocabulary of XML. -/
def isLooseDivision (b : Builder) (tag : String) : Bool :=
  b.inProse != 0 && !b.isXmlType && (tag == "div" || tag == "xhtml:div")

/-- Text for readers with elements in it consists of elements, whatever it says. -/
def retyped (b : Builder) : Builder :=
  if b.inProse != 0 && !b.isXmlType then { b with type := some xhtmlType } else b

def takesElements (b : Builder) : Bool :=
  b.inProse != 0 && b.type == some xhtmlType

def formTags : List String := ["title", "link", "description", "name"]

def pictureTags : List String := ["title", "link", "description", "url", "href", "width", "height"]

/-- An element of no namespace that cannot stand in a form or a picture ends it. -/
def endOuter (b : Builder) (short tag : String) : Builder :=
  if !short.isEmpty then b
  else { b with
    inTextInput := b.inTextInput && formTags.contains tag
    inPicture := b.inPicture && pictureTags.contains tag }

def declareAll (b : Builder) (a : Attributes) : Builder :=
  a.foldl
    (fun b (name, value) =>
      if name == "xmlns" then b.declare "" value
      else match Text.dropStart? "xmlns:".toList name.toList with
        | some q => b.declare (String.ofList q) value
        | none => b)
    b

def startElement (b : Builder) (tag : String) (attributes : List (String × String)) : Builder :=
  let a := Attributes.ofList b.isLenient attributes
  let b := { b with depth := b.depth + 1 }.declareAll a
  if b.isLooseDivision tag then b
  else
    let b := b.retyped
    if b.takesElements then
      b.addPiece ('<' :: (afterFirstColon tag).toList ++ a.written ++ ['>'])
    else
      let (short, name) := b.known tag
      (b.endOuter short tag).startRole (Role.ofName name) name a

def finishElement (b : Builder) (tag : String) : Builder :=
  let (_, name) := b.known tag
  let b := b.finishRole (Role.ofName name) name
  if b.isLooseDivision tag then b
  else
    let b := b.retyped
    let b :=
      if b.takesElements then b.addPiece ('<' :: '/' :: (afterLastColon tag).toList ++ ['>']) else b
    { b with depth := b.depth - 1 }

end Builder

end VideoWall.Feed
