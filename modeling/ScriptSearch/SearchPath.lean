import ScriptSearch.Template

/-! Search paths: templates in order of precedence. A search path is written as the
`:`-separated list of its templates; reading such a list skips empty elements and
stops at the first malformed one. -/

namespace ScriptSearch

/-- Templates, the preferred ones first. -/
abbrev SearchPath := List Template

namespace SearchPath

/-- The extensions that the default search path tries, the bare name first. -/
def extensions : List String := ["", ".sh", ".bash"]

/-- The default search path: the user's own scripts under `home`, then the current
directory. An empty `home` leaves a path from the root. -/
def ofHome (home : String) : SearchPath :=
  extensions.map (Template.mk (home ++ "/.local/share/bash/")) ++
    extensions.map (Template.mk "./")

/-- Adds the templates that the texts write, in order, up to the first malformed one. -/
def appendTexts (path : SearchPath) : List String → SearchPath × Option TemplateError
  | [] => (path, none)
  | text :: texts =>
    match Template.parse text with
    | .error e => (path, some e)
    | .ok t => appendTexts (path ++ [t]) texts

@[simp] theorem appendTexts_nil (path : SearchPath) : path.appendTexts [] = (path, none) := rfl

theorem appendTexts_cons_ok {text : String} {t : Template} (h : Template.parse text = .ok t)
    (path : SearchPath) (texts : List String) :
    path.appendTexts (text :: texts) = appendTexts (path ++ [t]) texts := by
  simp [appendTexts, h]

theorem appendTexts_cons_error {text : String} {e : TemplateError}
    (h : Template.parse text = .error e) (path : SearchPath) (texts : List String) :
    path.appendTexts (text :: texts) = (path, some e) := by
  simp [appendTexts, h]

/-- Reads the list form. -/
def parse (list : String) : Except TemplateError SearchPath :=
  match appendTexts [] (Text.elements list) with
  | (path, none) => .ok path
  | (_, some e) => .error e

/-- The written templates. -/
def texts (path : SearchPath) : List String := path.map Template.text

/-- The list form. -/
def text (path : SearchPath) : String := Text.join ':' path.texts

/-- The candidates for a name, one a template. -/
def expand (path : SearchPath) (name : String) : List String := path.map (·.expand name)

end SearchPath

end ScriptSearch
