import VideoWall.Markup.Entity
import VideoWall.Markup.Token
import VideoWall.Text.CodePage
import VideoWall.Url.Split

/-!
# Clean markup

Markup of unknown origin, reduced to elements and attributes that are fit to be shown. It is read
token by token and written anew: references are kept, attributes are put in order, and what is not
known to be harmless is left out.
-/

namespace VideoWall.Markup

/-! ## 1. What is harmless -/

def keptElements : List String :=
  ["a", "abbr", "acronym", "address", "area", "article", "aside", "audio", "b", "big", "blockquote",
    "br", "button", "canvas", "caption", "center", "cite", "code", "col", "colgroup", "command",
    "datagrid", "datalist", "dd", "del", "details", "dfn", "dialog", "dir", "div", "dl", "dt", "em",
    "event-source", "fieldset", "figcaption", "figure", "font", "footer", "form", "h1", "h2", "h3",
    "h4", "h5", "h6", "header", "hr", "i", "img", "input", "ins", "kbd", "keygen", "label",
    "legend", "li", "m", "map", "menu", "meter", "multicol", "nav", "nextid", "noscript", "ol",
    "optgroup", "option", "output", "p", "pre", "progress", "q", "s", "samp", "section", "select",
    "small", "sound", "source", "spacer", "span", "strike", "strong", "sub", "sup", "table",
    "tbody", "td", "textarea", "tfoot", "th", "thead", "time", "tr", "tt", "u", "ul", "var",
    "video"]

def droppedElements : List String := ["applet", "script", "style"]

def keptAttributes : List String :=
  ["abbr", "accept", "accept-charset", "accesskey", "action", "align", "alt", "autocomplete",
    "autofocus", "axis", "background", "balance", "bgcolor", "bgproperties", "border",
    "bordercolor", "bordercolordark", "bordercolorlight", "bottompadding", "cellpadding",
    "cellspacing", "ch", "challenge", "char", "charoff", "charset", "checked", "choff", "cite",
    "class", "clear", "color", "cols", "colspan", "compact", "contenteditable", "controls",
    "coords", "data", "datafld", "datapagesize", "datasrc", "datetime", "default", "delay", "dir",
    "disabled", "draggable", "dynsrc", "enctype", "end", "face", "for", "form", "frame",
    "galleryimg", "gutter", "headers", "height", "hidden", "hidefocus", "high", "href",
    "hreflang", "hspace", "icon", "id", "inputmode", "ismap", "keytype", "label", "lang",
    "leftspacing", "list", "longdesc", "loop", "loopcount", "loopend", "loopstart", "low",
    "lowsrc", "max", "maxlength", "media", "method", "min", "multiple", "name", "nohref",
    "noshade", "nowrap", "open", "optimum", "pattern", "ping", "point-size", "poster", "pqg",
    "preload", "prompt", "radiogroup", "readonly", "rel", "repeat-max", "repeat-min", "replace",
    "required", "rev", "rightspacing", "rows", "rowspan", "rules", "scope", "selected", "shape",
    "size", "span", "src", "start", "step", "summary", "suppress", "tabindex", "target",
    "template", "title", "toppadding", "type", "unselectable", "urn", "usemap", "valign", "value",
    "variable", "volume", "vrml", "vspace", "width", "wrap", "xml:lang"]

def keptSchemes : List String :=
  ["file", "ftp", "gopher", "h323", "hdl", "http", "https", "imap", "magnet", "mailto", "mms",
    "news", "nntp", "prospero", "rsync", "rtsp", "rtspu", "sftp", "shttp", "sip", "sips", "snews",
    "svn", "svn+ssh", "telnet", "wais", "aim", "callto", "cvs", "facetime", "feed", "git", "gtalk",
    "irc", "ircs", "irc6", "itms", "msnim", "skype", "ssh", "smb", "ymsg"]

def addressAttributes : List (String × String) :=
  [("a", "href"), ("applet", "codebase"), ("area", "href"), ("audio", "poster"),
    ("blockquote", "cite"), ("body", "background"), ("del", "cite"), ("form", "action"),
    ("frame", "longdesc"), ("frame", "src"), ("iframe", "longdesc"), ("iframe", "src"),
    ("head", "profile"), ("img", "longdesc"), ("img", "src"), ("img", "usemap"), ("input", "src"),
    ("input", "usemap"), ("ins", "cite"), ("link", "href"), ("object", "classid"),
    ("object", "codebase"), ("object", "data"), ("object", "usemap"), ("q", "cite"),
    ("script", "src"), ("source", "src"), ("video", "poster"), ("video", "src")]

/-- An address that a link may lead to; any other becomes empty. -/
def safeAddress (value : List Char) : List Char :=
  match Url.query value with
  | .error _ => []
  | .ok _ =>
    let scheme := Url.scheme value
    if scheme.isEmpty || keptSchemes.contains (String.ofList scheme) then value else []

/-! ## 2. Guessing -/

def isWordChar (c : Char) : Bool := isAlnum c || c == '_' || 0x80 ≤ c.toNat

/-- The words behind each opening bracket or closing tag, and whether a closing tag is complete. -/
def tagWords : List Char → List (List Char × Bool)
  | [] => []
  | '<' :: '/' :: cs =>
    let word := cs.takeWhile isWordChar
    (word, (cs.drop word.length).head? == some '>') :: tagWords cs
  | '<' :: cs => (cs.takeWhile isWordChar, false) :: tagWords cs
  | _ :: cs => tagWords cs

/-- The words between each ampersand and a semicolon, with the number sign that may precede them. -/
def referenceWords : List Char → List (List Char × Bool)
  | [] => []
  | '&' :: cs =>
    let (isNumber, body) := match cs with
      | '#' :: rest => (true, rest)
      | _ => (false, cs)
    let word := body.takeWhile isWordChar
    if (body.drop word.length).head? == some ';' && !word.isEmpty then
      (word, isNumber) :: referenceWords cs
    else referenceWords cs
  | _ :: cs => referenceWords cs

/-- Whether a text is to be taken for markup: it has a closing tag or a reference, and no element or
entity in it is unknown. -/
def looksLikeMarkup (cs : List Char) : Bool :=
  let words := (tagWords cs).filter fun w => !w.1.isEmpty
  let references := referenceWords cs
  (words.any (·.2) || !references.isEmpty) &&
    words.all (fun w => keptElements.contains (String.ofList (w.1.map Text.asciiLower))) &&
    references.all fun r => r.2 || isHtmlEntity (String.ofList r.1)

/-! ## 3. Writing tokens -/

def startsReference (cs : List Char) : Bool :=
  let isEnded (body : List Char) (p : Char → Bool) : Bool :=
    let word := body.takeWhile p
    !word.isEmpty && (body.drop word.length).head? == some ';'
  match cs with
  | '#' :: 'x' :: body => isEnded body fun c => (Text.hexValue? c).isSome
  | '#' :: body => isEnded body Text.isDigit
  | _ => isEnded cs isWordChar

def escapeLoose : List Char → List Char
  | [] => []
  | c :: cs =>
    if c == '&' && !startsReference cs then "&amp;".toList ++ escapeLoose cs
    else c :: escapeLoose cs

def writeValue (value : List Char) : List Char :=
  escapeLoose (value.flatMap fun c =>
    if c == '>' then "&gt;".toList
    else if c == '<' then "&lt;".toList
    else if c == '"' then "&quot;".toList
    else [c])

def writeAttribute (a : List Char × List Char) : List Char :=
  ' ' :: a.1 ++ '=' :: '"' :: writeValue a.2 ++ ['"']

def writeStart (name : List Char) (attributes : List (List Char × List Char)) : List Char :=
  let opening := '<' :: name ++ attributes.flatMap writeAttribute
  if voidElements.contains (String.ofList name) then opening ++ [' ', '/', '>'] else opening ++ ['>']

def writeFinish (name : List Char) : List Char :=
  if voidElements.contains (String.ofList name) then [] else '<' :: '/' :: name ++ ['>']

def referenceNumber (number : List Char) : Nat :=
  match number with
  | 'x' :: digits => digits.foldl (fun n c => n * 16 + (Text.hexValue? c).getD 0) 0
  | digits => digits.foldl (fun n c => n * 10 + (Text.digitValue? c).getD 0) 0

def hexDigits (n : Nat) : List Char :=
  match (Text.hex 8 n).dropWhile (· == '0') with
  | [] => ['0']
  | ds => ds

/-- A reference to a character as it is written. Controls stand for what they are on the page
Windows-1252. -/
def writeCharacter (number : List Char) : List Char :=
  let number := number.map Text.asciiLower
  match Text.CodePage.control? (referenceNumber number) with
  | some c => "&#x".toList ++ hexDigits c.toNat ++ [';']
  | none => "&#".toList ++ number ++ [';']

/-- A reference to an entity as it is written. An unknown one becomes text. -/
def writeEntity (name : List Char) : List Char :=
  let isKnown := isHtmlEntity (String.ofList name) || String.ofList name == "apos"
  if isKnown then '&' :: name ++ [';'] else "&amp;".toList ++ name

/-- Whether a text stands before another one in the order of code points, or is the same. -/
def notBehind (a b : List Char) : Bool :=
  !List.lex b a fun c d => Nat.blt c.toNat d.toNat

/-- Puts attributes in order; of two with the same name the later one counts. -/
def ordered (attributes : List (List Char × List Char)) : List (List Char × List Char) :=
  let keep (acc : List (List Char × List Char)) (a : List Char × List Char) :=
    let value := if a.1 == "rel".toList || a.1 == "type".toList then a.2.map Text.asciiLower else a.2
    acc.filter (·.1 != a.1) ++ [(a.1, value)]
  (attributes.foldl keep []).mergeSort fun a b => notBehind a.1 b.1

/-! ## 4. Passes -/

def escapeLiteral (cs : List Char) : List Char :=
  cs.flatMap fun c =>
    if c == '&' then "&amp;".toList
    else if c == '<' then "&lt;".toList
    else if c == '>' then "&gt;".toList
    else [c]

/-- Writes tokens anew, with blanks cut off from the addresses in them. In the stricter form of
markup a tag that closes itself is spelled out. -/
def tidy (isXml : Bool) (cs : List Char) : List Char :=
  (tokens (repaired cs)).flatMap fun t =>
    match t with
    | .text cs => cs
    | .character number => writeCharacter number
    | .entity name => writeEntity name
    | .start name attributes isClosed =>
      let trimmed (a : List Char × List Char) : List Char × List Char :=
        let value := Text.trimChars a.2
        if addressAttributes.contains (String.ofList name, String.ofList a.1) && !value.isEmpty then
          (a.1, value)
        else a
      writeStart name ((ordered attributes).map trimmed) ++
        (if isClosed && isXml then writeFinish name else [])
    | .finish name => writeFinish name
    | .comment cs => "<!--".toList ++ cs ++ "-->".toList
    | .literal cs => escapeLiteral cs
    | .other => []

def safeAttributes (attributes : List (List Char × List Char)) : List (List Char × List Char) :=
  (ordered attributes).filterMap fun (name, value) =>
    if !keptAttributes.contains (String.ofList name) then none
    else if name == "href".toList then some (name, safeAddress value)
    else some (name, value)

/-- Writes the harmless part of tokens. What stands inside of an element that is dropped with its
content is left out, as far as it is text; `hidden` counts those elements. -/
def sanitize (isXml : Bool) : (hidden : Int) → List Token → List Char
  | _, [] => []
  | hidden, t :: ts =>
    match t with
    | .text cs => (if hidden == 0 then cs else []) ++ sanitize isXml hidden ts
    | .literal cs => (if hidden == 0 then escapeLiteral cs else []) ++ sanitize isXml hidden ts
    | .character number => writeCharacter number ++ sanitize isXml hidden ts
    | .entity name => writeEntity name ++ sanitize isXml hidden ts
    | .start name attributes isClosed =>
      if keptElements.contains (String.ofList name) then
        writeStart name (safeAttributes attributes) ++
          (if isClosed && isXml then writeFinish name else []) ++ sanitize isXml hidden ts
      else
        let isDropped := droppedElements.contains (String.ofList name)
        let opened := isDropped && !(isClosed && isXml)
        sanitize isXml (if opened then hidden + 1 else hidden) ts
    | .finish name =>
      if keptElements.contains (String.ofList name) then writeFinish name ++ sanitize isXml hidden ts
      else
        let isDropped := droppedElements.contains (String.ofList name)
        sanitize isXml (if isDropped then hidden - 1 else hidden) ts
    | .comment cs => "<!--".toList ++ cs ++ "-->".toList ++ sanitize isXml hidden ts
    | .other => sanitize isXml hidden ts

def clean (isXml : Bool) (cs : List Char) : List Char :=
  let tidied := tidy isXml cs
  let marked := Text.replaceAll "<![CDATA[".toList "&lt;![CDATA[".toList tidied
  let safe := sanitize isXml 0 (tokens (repaired marked))
  Text.replaceAll ['\r', '\n'] ['\n'] (Text.trimChars safe)

end VideoWall.Markup
