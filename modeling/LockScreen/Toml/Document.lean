import LockScreen.Toml.Quoted
import LockScreen.Toml.Scalar

namespace LockScreen.Toml

/-- Arrays and inline tables nest less deep than this, and a dotted key has fewer parts. -/
def depthLimit : Nat := 80

def isBareKey (c : Char) : Bool :=
  c.isAlphanum || c = '_' || c = '-'

def key : Reader String
  | '"' :: rest => Quoted.line '"' true rest
  | '\'' :: rest => Quoted.line '\'' false rest
  | text =>
    match text.takeWhile isBareKey with
    | [] => none
    | name => some (String.ofList name, text.dropWhile isBareKey)

def path : Nat → Reader (List String)
  | 0, _ => none
  | parts + 1, text =>
    match key (skipBlanks text) with
    | none => none
    | some (first, rest) =>
      match skipBlanks rest with
      | '.' :: rest => (path parts rest).map fun (others, rest) => (first :: others, rest)
      | rest => some ([first], rest)

def dottedKey : Reader (List String) :=
  path (depthLimit - 1)

def pair (value : Reader Item) (text : List Char) : Option ((List String × Item) × List Char) :=
  match dottedKey text with
  | some (names, '=' :: rest) =>
    (value (skipBlanks rest)).map fun (item, rest) => ((names, item), rest)
  | _ => none

def elements (value : Reader Item) : Nat → Reader (List Item)
  | 0, _ => none
  | fuel + 1, text =>
    match skipLayout false text with
    | ']' :: rest => some ([], rest)
    | text =>
      match value text with
      | none => none
      | some (first, rest) =>
        match skipLayout false rest with
        | ',' :: rest =>
          (elements value fuel rest).map fun (others, rest) => (first :: others, rest)
        | ']' :: rest => some ([first], rest)
        | _ => none

def pairs (value : Reader Item) : Nat → Reader (List (List String × Item))
  | 0, _ => none
  | fuel + 1, text =>
    match pair value text with
    | none => none
    | some (first, rest) =>
      match skipBlanks rest with
      | ',' :: rest => (pairs value fuel rest).map fun (others, rest) => (first :: others, rest)
      | '}' :: rest => some ([first], rest)
      | _ => none

def ofPairs (all : List (List String × Item)) (entries : Entries) : Option Entries :=
  all.foldlM (fun entries next => entries.insert true next.1 next.2) entries

def braced (value : Reader Item) (text : List Char) : Option (Item × List Char) :=
  match skipBlanks text with
  | '}' :: rest => some (.table .braces [], rest)
  | _ =>
    match pairs value (text.length + 1) text with
    | none => none
    | some (all, rest) => (ofPairs all []).map fun entries => (.table .braces entries, rest)

def flat (text : List Char) : Option (Item × List Char) :=
  match text with
  | '"' :: _ | '\'' :: _ => (Quoted.read text).map fun (content, rest) => (.text content, rest)
  | _ => Scalar.read text

def value : Nat → Reader Item
  | 0, text => flat text
  | depth + 1, text =>
    match text with
    | '[' :: rest =>
      (elements (value depth) (rest.length + 1) rest).map fun (items, rest) => (.list items, rest)
    | '{' :: rest => braced (value depth) rest
    | _ => flat text

inductive Statement where
  | pair (names : List String) (item : Item)
  | header (names : List String)
  | element (names : List String)

def header (text : List Char) : Option (Statement × List Char) :=
  match text with
  | '[' :: rest =>
    match dottedKey rest with
    | some (names, ']' :: ']' :: rest) => some (.element names, rest)
    | _ => none
  | _ =>
    match dottedKey text with
    | some (names, ']' :: rest) => some (.header names, rest)
    | _ => none

def statement (text : List Char) : Option (Statement × List Char) :=
  let read :=
    match text with
    | '[' :: rest => header rest
    | _ =>
      (pair (value (depthLimit - 1)) text).map fun (found, rest) => (.pair found.1 found.2, rest)
  match read with
  | none => none
  | some (found, rest) => (lineEnd? rest).map (found, ·)

def statements : Nat → List Char → Option (List Statement)
  | 0, _ => none
  | fuel + 1, text =>
    match skipLayout false text with
    | [] => some []
    | text =>
      match statement text with
      | none => none
      | some (first, rest) => (statements fuel rest).map (first :: ·)

/-- A document in the making: the finished tables, and the table that pairs go into. -/
structure Draft where
  root : Entries
  names : List String
  isElement : Bool
  current : Entries

namespace Draft

def finish (draft : Draft) : Option Entries :=
  match draft.names.getLast? with
  | none => some draft.current
  | some last =>
    Entries.change
      (if draft.isElement then Entries.append last draft.current
        else Entries.close last draft.current)
      draft.names.dropLast draft.root

def step (draft : Draft) : Statement → Option Draft
  | .pair names item =>
    (draft.current.insert true names item).map fun current => { draft with current }
  | .header names => do
    let root ← draft.finish
    let parent ← Entries.follow names.dropLast root
    let current ← Entries.opened parent (names.getLast?.getD "")
    return ⟨root, names, false, current⟩
  | .element names => do
    let root ← draft.finish
    return ⟨root, names, true, []⟩

end Draft

def assemble (all : List Statement) : Option Entries :=
  (all.foldlM Draft.step ⟨[], [], false, []⟩).bind Draft.finish

/-- The table that a document describes. A byte order mark in front is ignored. -/
def parse (document : String) : Option Entries :=
  let text :=
    match document.toList with
    | '\ufeff' :: rest => rest
    | text => text
  (statements (text.length + 1) text).bind assemble

end LockScreen.Toml
