import ArenaStandings.Web.Response

/-!
# The manual

The service has a manual: four pages that are generated from its endpoints and are the same for
every request. What they say depends on the generator alone, so a `Manual` carries it. It also
carries the order in which the methods that pages know are listed, which is left to chance.
-/

namespace ArenaStandings

/-- A page of the manual. -/
inductive ManualPage
  /-- Where the endpoints can be tried out. -/
  | explorer
  /-- Where a login from the explorer leads back to. -/
  | explorerLogin
  | reference
  /-- The description of the endpoints that the other pages are made of. -/
  | description
  deriving DecidableEq, Repr

namespace ManualPage

def path : ManualPage → String
  | .explorer => "/docs"
  | .explorerLogin => "/docs/oauth2-redirect"
  | .reference => "/redoc"
  | .description => "/openapi.json"

def contentType : ManualPage → String
  | .description => "application/json"
  | _ => "text/html; charset=utf-8"

def ofPath? (path : List Char) : Option ManualPage :=
  [explorer, explorerLogin, reference, description].find? fun page => page.path.toList = path

end ManualPage

/-- What the pages of the manual say, and how the methods that they know are listed. -/
structure Manual where
  content : ManualPage → Body
  methods : List String
  methods_perm : methods.Perm ["GET", "HEAD"]

namespace Manual

/-- The manual with nothing on its pages. -/
def blank : Manual := ⟨fun _ => .empty, ["GET", "HEAD"], .refl _⟩

theorem get_mem_methods (manual : Manual) : "GET" ∈ manual.methods :=
  manual.methods_perm.mem_iff.2 List.mem_cons_self

/-- The response with a page of the manual. -/
def respond (manual : Manual) (page : ManualPage) : Response :=
  ⟨200, [("content-type", page.contentType)], manual.content page⟩

end Manual

end ArenaStandings
