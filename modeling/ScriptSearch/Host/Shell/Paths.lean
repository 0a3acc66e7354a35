import ScriptSearch.Host.FileTree
import ScriptSearch.Host.Shell.Pattern

/-! The paths of files that a pattern matches. A name that begins with a point is matched only
by a pattern that does, unless such names count as any other. -/

namespace ScriptSearch.Host.Shell

/-- How paths are looked for. -/
structure PathRule where
  pattern : PatternRule
  /-- Whether the directory itself and the one above it count as names. -/
  dots : Bool := false
  /-- Whether names that begin with a point count as any other. -/
  hidden : Bool := false
  /-- Whether `**` goes through directories. -/
  deep : Bool := false

namespace PathRule

/-- The parts of a path between slashes outside of groups. -/
def parts (extended : Bool) : (depth : Nat) → List Glyph → List (List Glyph)
  | _, [] => [[]]
  | depth, g :: rest =>
    if g.char = '/' ∧ depth = 0 then [] :: parts extended 0 rest
    else
      let depth :=
        if !extended || g.quoted then depth
        else if g.char = '(' then depth + 1 else if g.char = ')' then depth - 1 else depth
      (parts extended depth rest).modifyHead (g :: ·)

/-- The names in a directory that a part of a pattern matches. -/
def names (r : PathRule) (tree : FileTree) (location : Location) (part : List Glyph) : List String :=
  let pattern := Pattern.ofGlyphs r.pattern part
  let pointed := (part.head?.map (·.char)) == some '.'
  let all := tree.children location ++ if pointed && r.dots then [".", ".."] else []
  all.filter fun n =>
    ((n.startsWith "." == pointed) || (r.hidden && !pointed)) && pattern.accepts n

/-- A directory and all below it, each as a path with a slash at its end, as far as steps go.
Links are not followed. -/
def below (r : PathRule) (tree : FileTree) : Nat → (location : Location) → (found : String) → List String
  | 0, _, found => [found]
  | steps + 1, location, found =>
    found :: (tree.children location).flatMap fun n =>
      if tree.isDirectory (location ++ [n]) && (r.hidden || !n.startsWith ".") then
        below r tree steps (location ++ [n]) (found ++ n ++ "/")
      else []

/-- How deep directories stand in directories. -/
def depthLimit : Nat := 64

/-- The paths that the parts of a pattern match, with the path so far in front. -/
def paths (r : PathRule) (tree : FileTree) (here : Directory) (found : String) :
    List (List Glyph) → List String
  | [] => []
  | part :: rest =>
    let place := tree.directory here (if found = "" then "." else found)
    if r.deep && part == [⟨'*', false⟩, ⟨'*', false⟩] then
      match place with
      | .ok ⟨location, 0⟩ =>
        if !tree.permitsAt .read location then []
        else (below r tree depthLimit location found).flatMap fun base =>
          match rest with
          | [] =>
            match tree.directory here (if base = "" then "." else base) with
            | .ok ⟨location, 0⟩ =>
              (if base = found && found = "" then [] else if base = found then [base] else []) ++
                (tree.children location).filterMap fun n =>
                  if r.hidden || !n.startsWith "." then some (base ++ n) else none
            | _ => []
          | [[]] => if base = "" then [] else [base]
          | rest => paths r tree here base rest
      | _ => []
    else if Pattern.isPattern r.pattern.extended part then
      match place with
      | .ok ⟨location, 0⟩ =>
        if !tree.permitsAt .read location then []
        else (names r tree location part).flatMap fun n =>
          if rest.isEmpty then [found ++ n] else paths r tree here (found ++ n ++ "/") rest
      | _ => []
    else
      let path := found ++ textOf part
      if rest.isEmpty then
        if tree.present here (if path = "" then "." else path) || tree.isLink here path then [path]
        else []
      else paths r tree here (path ++ "/") rest

/-- The paths that a word stands for, in order; nothing if it is no pattern. -/
def found? (r : PathRule) (tree : FileTree) (here : Directory) (gs : List Glyph) :
    Option (List String) :=
  if Pattern.isPattern r.pattern.extended gs then
    let all := paths r tree here "" (parts r.pattern.extended 0 gs)
    some (all.eraseDups.mergeSort fun a b => decide (a ≤ b))
  else none

end PathRule

end ScriptSearch.Host.Shell
