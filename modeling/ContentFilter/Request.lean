import ContentFilter.Data.BitSet
import ContentFilter.Domain.PublicSuffix
import ContentFilter.Url.Location

/-!
A request as filters see it: its address, its host, the page that made it and what it loads.
-/

namespace ContentFilter

/-- What a request loads. -/
inductive Kind where
  | other | script | image | stylesheet | object | subdocument | mainFrame | xmlHttpRequest
  | websocket | font | media | ping | cspReport
  deriving DecidableEq, Repr, Inhabited

namespace Kind

def index : Kind → Nat
  | .other => 0
  | .script => 1
  | .image => 2
  | .stylesheet => 3
  | .object => 4
  | .subdocument => 5
  | .mainFrame => 6
  | .xmlHttpRequest => 7
  | .websocket => 8
  | .font => 9
  | .media => 10
  | .ping => 11
  | .cspReport => 12

def set (kind : Kind) : BitSet := .single kind.index

/-- Main documents and embedded ones. -/
def isDocument (kind : Kind) : Bool := kind == .mainFrame || kind == .subdocument

def documents : BitSet := Kind.mainFrame.set.union Kind.subdocument.set

/-- The kinds in the order of browser names, each with its browser name. -/
def browserNames : List (Kind × String) :=
  [(.mainFrame, "main_frame"), (.subdocument, "sub_frame"), (.stylesheet, "stylesheet"),
    (.script, "script"), (.image, "image"), (.font, "font"), (.object, "object"),
    (.xmlHttpRequest, "xmlhttprequest"), (.ping, "ping"), (.cspReport, "csp_report"),
    (.media, "media"), (.websocket, "websocket"), (.other, "other")]

/-- Every kind in the order of its index, with its written name. -/
def names : BitNames where
  width := 32
  flags :=
    [("OTHER", 0), ("SCRIPT", 1), ("IMAGE", 2), ("STYLESHEET", 3), ("OBJECT", 4),
      ("SUBDOCUMENT", 5), ("MAIN_FRAME", 6), ("XMLHTTPREQUEST", 7), ("WEBSOCKET", 8), ("FONT", 9),
      ("MEDIA", 10), ("PING", 11), ("CSP_REPORT", 12)]
  unions := [("DOCUMENT", documents)]

def all : BitSet := names.all

/-- The kind that a browser's name or an everyday name stands for. -/
def ofBrowser (name : String) : Kind :=
  if name == "main_frame" || name == "document" then .mainFrame
  else if name == "sub_frame" || name == "subdocument" then .subdocument
  else if name == "stylesheet" || name == "css" then .stylesheet
  else if name == "script" || name == "js" then .script
  else if name == "image" || name == "img" || name == "imageset" then .image
  else if name == "font" then .font
  else if name == "object" || name == "object_subrequest" then .object
  else if name == "xmlhttprequest" || name == "xhr" || name == "fetch" then .xmlHttpRequest
  else if name == "ping" || name == "beacon" then .ping
  else if name == "csp_report" then .cspReport
  else if name == "media" then .media
  else if name == "websocket" || name == "ws" then .websocket
  else .other

/-- The browser names of a set of kinds. -/
def browserNamesOf (kinds : BitSet) : List String :=
  (browserNames.filter fun (kind, _) => kinds.mem kind.index).map (·.2)

end Kind

/-- Whether the page and the request share their registrable domain. -/
inductive Party where
  | first | third
  deriving DecidableEq, Repr

namespace Party

def index : Party → Nat
  | .first => 0
  | .third => 1

def set (party : Party) : BitSet := .single party.index

def both : BitSet := Party.first.set.union Party.third.set

def names : BitNames where
  width := 8
  flags := [("FIRST_PARTY", 0), ("THIRD_PARTY", 1)]
  unions := [("ALL", both)]

end Party

structure Request where
  url : String
  hostname : String
  domain : String
  sourceHostname : String
  sourceDomain : String
  kind : Kind
  isThirdParty : Bool
  deriving DecidableEq, Repr

namespace Request

def party (request : Request) : Party := if request.isThirdParty then .third else .first

/-- A main document is its own source; any other request without a known source counts as made by
its own host. -/
def sourceHost (kind : Kind) (hostname : List Char) (source : Option String) : List Char :=
  if kind == .mainFrame then hostname
  else match source.bind fun url => Url.host? url.toList with
    | some host => Text.lower host
    | none => hostname

def build (suffixes : Option Domain.PublicSuffixes) (url : String) (source : Option String)
    (kind : Kind) : Request :=
  let hostname := Url.hostName url.toList
  let domain := Domain.registrable suffixes hostname
  let sourceHostname := sourceHost kind hostname source
  let sourceDomain := Domain.registrable suffixes sourceHostname
  { url
    hostname := String.ofList hostname
    domain := String.ofList domain
    sourceHostname := String.ofList sourceHostname
    sourceDomain := String.ofList sourceDomain
    kind
    isThirdParty := !sourceDomain.isEmpty && domain != sourceDomain }

/-- A request from the names that browsers use. -/
def ofBrowser (suffixes : Option Domain.PublicSuffixes) (url : String) (source : Option String)
    (kind : String) : Request :=
  build suffixes url source (.ofBrowser kind)

/-- The request for a page itself. -/
def page (suffixes : Option Domain.PublicSuffixes) (url : String) : Request :=
  build suffixes url none .mainFrame

end Request

end ContentFilter
