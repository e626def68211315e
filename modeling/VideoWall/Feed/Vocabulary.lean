/-!
# The vocabulary of feeds

The namespaces that feeds use, with the short names they are known by, and the part that an element
plays in a feed. The vocabularies of the feeds themselves have an empty short name.
-/

namespace VideoWall.Feed

/-! ## 1. Namespaces -/

def namespaces : List (String × String) :=
  [("", ""),
    ("http://backend.userland.com/rss", ""),
    ("http://blogs.law.harvard.edu/tech/rss", ""),
    ("http://purl.org/rss/1.0/", ""),
    ("http://my.netscape.com/rdf/simple/0.9/", ""),
    ("http://example.com/newformat#", ""),
    ("http://example.com/necho", ""),
    ("http://purl.org/echo/", ""),
    ("uri/of/echo/namespace#", ""),
    ("http://purl.org/pie/", ""),
    ("http://purl.org/atom/ns#", ""),
    ("http://www.w3.org/2005/atom", ""),
    ("http://purl.org/rss/1.0/modules/rss091#", ""),
    ("http://webns.net/mvcb/", "admin"),
    ("http://purl.org/rss/1.0/modules/aggregation/", "ag"),
    ("http://purl.org/rss/1.0/modules/annotate/", "annotate"),
    ("http://media.tangent.org/rss/1.0/", "audio"),
    ("http://backend.userland.com/blogchannelmodule", "blogchannel"),
    ("http://creativecommons.org/ns#license", "cc"),
    ("http://web.resource.org/cc/", "cc"),
    ("http://cyber.law.harvard.edu/rss/creativecommonsrssmodule.html", "creativecommons"),
    ("http://backend.userland.com/creativecommonsrssmodule", "creativecommons"),
    ("http://purl.org/rss/1.0/modules/company", "co"),
    ("http://purl.org/rss/1.0/modules/content/", "content"),
    ("http://my.theinfo.org/changed/1.0/rss/", "cp"),
    ("http://purl.org/dc/elements/1.1/", "dc"),
    ("http://purl.org/dc/terms/", "dcterms"),
    ("http://purl.org/rss/1.0/modules/email/", "email"),
    ("http://purl.org/rss/1.0/modules/event/", "ev"),
    ("http://rssnamespace.org/feedburner/ext/1.0", "feedburner"),
    ("http://freshmeat.net/rss/fm/", "fm"),
    ("http://xmlns.com/foaf/0.1/", "foaf"),
    ("http://www.w3.org/2003/01/geo/wgs84_pos#", "geo"),
    ("http://www.georss.org/georss", "georss"),
    ("http://www.opengis.net/gml", "gml"),
    ("http://postneo.com/icbm/", "icbm"),
    ("http://purl.org/rss/1.0/modules/image/", "image"),
    ("http://www.itunes.com/dtds/podcast-1.0.dtd", "itunes"),
    ("http://example.com/dtds/podcast-1.0.dtd", "itunes"),
    ("http://purl.org/rss/1.0/modules/link/", "l"),
    ("http://search.yahoo.com/mrss", "media"),
    ("http://search.yahoo.com/mrss/", "media"),
    ("http://madskills.com/public/xml/rss/module/pingback/", "pingback"),
    ("http://prismstandard.org/namespaces/1.2/basic/", "prism"),
    ("http://www.w3.org/1999/02/22-rdf-syntax-ns#", "rdf"),
    ("http://www.w3.org/2000/01/rdf-schema#", "rdfs"),
    ("http://purl.org/rss/1.0/modules/reference/", "ref"),
    ("http://purl.org/rss/1.0/modules/richequiv/", "reqv"),
    ("http://purl.org/rss/1.0/modules/search/", "search"),
    ("http://purl.org/rss/1.0/modules/slash/", "slash"),
    ("http://schemas.xmlsoap.org/soap/envelope/", "soap"),
    ("http://purl.org/rss/1.0/modules/servicestatus/", "ss"),
    ("http://hacks.benhammersley.com/rss/streaming/", "str"),
    ("http://purl.org/rss/1.0/modules/subscription/", "sub"),
    ("http://purl.org/rss/1.0/modules/syndication/", "sy"),
    ("http://schemas.pocketsoap.com/rss/mydescmodule/", "szf"),
    ("http://purl.org/rss/1.0/modules/taxonomy/", "taxo"),
    ("http://purl.org/rss/1.0/modules/threading/", "thr"),
    ("http://purl.org/rss/1.0/modules/textinput/", "ti"),
    ("http://madskills.com/public/xml/rss/module/trackback/", "trackback"),
    ("http://wellformedweb.org/commentapi/", "wfw"),
    ("http://purl.org/rss/1.0/modules/wiki/", "wiki"),
    ("http://www.w3.org/1999/xhtml", "xhtml"),
    ("http://www.w3.org/1999/xlink", "xlink"),
    ("http://www.w3.org/xml/1998/namespace", "xml"),
    ("http://podlove.org/simple-chapters", "psc")]

/-- The format that a declaration of a namespace, in lower case, gives away; the empty qualifier is
the default. -/
def formatOf (qualifier lower : String) : Option String :=
  if lower == "http://my.netscape.com/rdf/simple/0.9/" && qualifier.isEmpty then some "rss090"
  else if lower == "http://purl.org/rss/1.0/" then some "rss10"
  else if lower == "http://www.w3.org/2005/atom" then some "atom10"
  else none

/-! ## 2. Elements -/

inductive Role where
  | rss
  | feed
  | channel
  | item
  | picture
  | textInput
  | source
  /-- A title; the one of a medium gives way to later ones. -/
  | title (ofMedium : Bool)
  | link
  | id
  | published
  | author
  | contributor
  | namedContributor
  | owner
  | name
  | address
  | email
  | thumbnail
  /-- A picture of which only the address is given. -/
  | cover
  /-- A group of elements, which is of no account. -/
  | group
  /-- Text for readers, kept under a name and of some type unless it says otherwise. -/
  | prose (name type : String)
  | unknown
deriving DecidableEq, Repr

def plainType : String := "text/plain"

def htmlType : String := "text/html"

def xhtmlType : String := "application/xhtml+xml"

/-- The parts that names play, with the short name of the namespace and an underscore in front. -/
def roles : List (String × Role) :=
  [("rss", .rss), ("feed", .feed), ("channel", .channel), ("item", .item), ("entry", .item),
    ("image", .picture), ("textinput", .textInput), ("source", .source),
    ("title", .title false), ("dc_title", .title false), ("media_title", .title true),
    ("link", .link), ("guid", .id), ("id", .id),
    ("published", .published), ("pubdate", .published), ("issued", .published),
    ("dcterms_issued", .published),
    ("author", .author), ("managingeditor", .author), ("dc_author", .author),
    ("dc_creator", .author), ("itunes_author", .author),
    ("contributor", .contributor), ("dc_contributor", .namedContributor),
    ("itunes_owner", .owner),
    ("name", .name), ("itunes_name", .name),
    ("url", .address), ("homepage", .address), ("uri", .address),
    ("email", .email), ("itunes_email", .email),
    ("media_thumbnail", .thumbnail), ("itunes_image", .cover), ("itunes_link", .cover),
    ("media_group", .group),
    ("description", .prose "description" htmlType),
    ("dc_description", .prose "description" htmlType),
    ("media_description", .prose "description" htmlType),
    ("abstract", .prose "description" plainType),
    ("summary", .prose "summary" plainType), ("itunes_summary", .prose "summary" plainType),
    ("content", .prose "content" plainType),
    ("content_encoded", .prose "content" htmlType), ("fullitem", .prose "content" htmlType),
    ("body", .prose "content" xhtmlType), ("xhtml_body", .prose "content" xhtmlType),
    ("subtitle", .prose "subtitle" plainType), ("tagline", .prose "subtitle" plainType),
    ("itunes_subtitle", .prose "subtitle" plainType),
    ("rights", .prose "rights" plainType), ("dc_rights", .prose "rights" plainType),
    ("copyright", .prose "rights" plainType),
    ("info", .prose "info" plainType),
    ("feedburner_browserfriendly", .prose "info" plainType)]

def Role.ofName (name : String) : Role :=
  (roles.lookup name).getD .unknown

def rssFormat (version : String) : String :=
  match version with
  | "0.91" => "rss091u"
  | "0.92" => "rss092"
  | "0.93" => "rss093"
  | "0.94" => "rss094"
  | _ => if version.startsWith "2." then "rss20" else "rss"

def atomFormat (version : String) : String :=
  match version with
  | "0.1" => "atom01"
  | "0.2" => "atom02"
  | "0.3" => "atom03"
  | _ => "atom"

def typeOf (word : String) : String :=
  match word with
  | "text" | "plain" => plainType
  | "html" => htmlType
  | "xhtml" => xhtmlType
  | _ => word

end VideoWall.Feed
