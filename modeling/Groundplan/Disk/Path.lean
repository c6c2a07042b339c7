/-!
# Paths

Paths as text. Empty parts and single points in a path say nothing.
-/

namespace Groundplan.Path

/-- The parts of a path between its slashes. -/
def splitSlashes : List Char → List (List Char)
  | [] => [[]]
  | c :: cs =>
    if c = '/' then [] :: splitSlashes cs
    else match splitSlashes cs with
      | [] => [[c]]
      | part :: parts => (c :: part) :: parts

def parts (path : String) : List String :=
  ((splitSlashes path.toList).map String.ofList).filter fun part => part != "" && part != "."

def isAbsolute (path : String) : Bool := path.startsWith "/"

/-- Whether a path can only name a directory. -/
def namesDirectory (path : String) : Bool := path.endsWith "/" || path.endsWith "/."

/-- The path of an entry in a directory. -/
def join (directory name : String) : String :=
  if directory == "" || directory.endsWith "/" then directory ++ name else directory ++ "/" ++ name

/-- The text behind the last point of a name. A point at the very front starts no extension. -/
def extensionOf (name : List Char) : Option (List Char) :=
  let reversed := name.reverse
  let ending := reversed.takeWhile (· != '.')
  match reversed.drop ending.length with
  | [] | [_] => none
  | _ => some ending.reverse

def extension? (path : String) : Option String :=
  match (parts path).getLast? with
  | none | some ".." => none
  | some name => (extensionOf name.toList).map String.ofList

/-- The letter in lowercase, if it is one of the basic alphabet. -/
def lowerLetter (c : Char) : Char := if 'A' ≤ c ∧ c ≤ 'Z' then Char.ofNat (c.toNat + 32) else c

def isJson (path : String) : Bool :=
  (extension? path).map (·.toList.map lowerLetter) == some "json".toList

end Groundplan.Path
