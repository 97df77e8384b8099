import LintFindings.Toml.Lexeme

/-!
TOML documents: values, and the statements that put them into tables. A table may be opened by a
header once, and what is written in one piece cannot be added to later.
-/

namespace LintFindings.Toml

/--
Changes the table behind a path and makes the tables on the way that are missing. With `lists` a
list on the way stands for its last item. Nothing, when another value is in the way.
-/
def changeTable (lists : Bool) (change : Fields → Option Fields) : Key → Fields → Option Fields
  | [], fields => change fields
  | part :: parts, fields =>
    match fields.get? part with
    | none => (changeTable lists change parts []).map (fun inner => fields.put part (.table inner))
    | some (.table inner) =>
      (changeTable lists change parts inner).map (fun inner => fields.put part (.table inner))
    | some (.list items) =>
      match lists, items.getLast? with
      | true, some (.table inner) =>
        (changeTable lists change parts inner).map
          (fun inner => fields.put part (.list (items.dropLast ++ [.table inner])))
      | _, _ => none
    | some _ => none

def addNew (name : Text) (value : Datum) (fields : Fields) : Option Fields :=
  if (fields.get? name).isSome then none else some (fields.put name value)

def addItem (name : Text) (fields : Fields) : Option Fields :=
  match fields.get? name with
  | none => some (fields.put name (.list [.table []]))
  | some (.list items) => some (fields.put name (.list (items ++ [.table []])))
  | some _ => none

def liesWithin (tops : List Key) (key : Key) : Bool :=
  key != [] && tops.any (fun top => top.isPrefixOf key)

def isContainer : Datum → Bool
  | .list _ => true
  | .table _ => true
  | _ => false

def splitKey (key : Key) : Key × Text := (key.dropLast, key.getLastD [])

def startsWith (word : String) (t : Text) : Bool := word.toList.isPrefixOf t

def scalar (t : Text) : Except Refusal (Part Datum) :=
  match string? t with
  | some string => do
    let (chars, rest) ← string
    return (.text chars, rest)
  | none =>
    if startsWith "true" t then .ok (.bool true, t.drop 4)
    else if startsWith "false" t then .ok (.bool false, t.drop 5)
    else match dateOrTime? t with
      | some found => found
      | none =>
        match number? t with
        | some found => found
        | none =>
          match specialFloat? t with
          | some found => .ok found
          | none => refuse .value t

/--
The room for values inside each other. It is what a call of the library has, and fixed: a run of the
command, which has less stack left when it reads its settings, is given the same.
-/
def nestingRoom : Nat := 980

def listRoom : Nat := 2

def tableRoom : Nat := 3

mutual

def value (room : Nat) : Nat → Text → Except Refusal (Part Datum)
  | 0, t => refuse .value t
  | fuel + 1, t =>
    match t with
    | '[' :: rest => do
      if room < listRoom then throw .nestingLimit
      let rest ← skipArraySpace rest.length rest
      match rest with
      | ']' :: rest => return (.list [], rest)
      | _ => do
        let (items, rest) ← items (room - listRoom) fuel rest
        return (.list items, rest)
    | '\x7b' :: rest =>
      if room < tableRoom then .error .nestingLimit
      else match skipSpace rest with
        | '\x7d' :: rest => .ok (.table [], rest)
        | rest => do
          let (fields, rest) ← members (room - tableRoom) fuel [] [] rest
          return (.table fields, rest)
    | _ => scalar t

def items (room : Nat) : Nat → Text → Except Refusal (Part (List Datum))
  | 0, t => refuse .openArray t
  | fuel + 1, t => do
    let (item, rest) ← value room fuel t
    let rest ← skipArraySpace rest.length rest
    match rest with
    | ']' :: rest => return ([item], rest)
    | ',' :: rest => do
      let rest ← skipArraySpace rest.length rest
      match rest with
      | ']' :: rest => return ([item], rest)
      | _ => do
        let (others, rest) ← items room fuel rest
        return (item :: others, rest)
    | rest => refuse .openArray rest

/-- The members of an inline table, added to those before them; `closed` paths take no more. -/
def members (room : Nat) : Nat → Fields → List Key → Text → Except Refusal (Part Fields)
  | 0, _, _, t => refuse .openTable t
  | fuel + 1, fields, closed, t => do
    let (key, rest) ← key t
    match rest with
    | '=' :: rest => do
      let (member, rest) ← value room fuel (skipSpace rest)
      let (table, name) := splitKey key
      if liesWithin closed key then refuse (.immutable key) rest
      else match changeTable false some table fields with
        | none => refuse .overwrite rest
        | some _ =>
          match changeTable false (addNew name member) table fields with
          | none => refuse (.duplicateMember name) rest
          | some fields =>
            match skipSpace rest with
            | '\x7d' :: rest => return (fields, rest)
            | ',' :: rest =>
              let closed := if isContainer member then key :: closed else closed
              members room fuel fields closed (skipSpace rest)
            | rest => refuse .openTable rest
    | rest => refuse .equals rest

end

structure Document where
  fields : Fields
  header : Key
  declared : List Key
  /-- Tables made by dotted keys since the last header; the next header counts them as declared. -/
  pending : List Key
  frozen : List Key
  deriving Inhabited

def Document.empty : Document := ⟨[], [], [], [], []⟩

def passed (header key : Key) : List Key :=
  (List.range (key.length - 1)).map (fun i => header ++ key.take (i + 1))

def assignment (doc : Document) (t : Text) : Except Refusal (Part Document) := do
  let (key, rest) ← key t
  match rest with
  | '=' :: rest => do
    let (member, rest) ← value nestingRoom (2 * rest.length + 1) (skipSpace rest)
    let (parent, name) := splitKey key
    let table := doc.header ++ parent
    match (passed doc.header key).find? (fun path => doc.declared.contains path) with
    | some path => refuse (.redefined path) rest
    | none =>
      if liesWithin doc.frozen table then refuse (.immutable table) rest
      else match changeTable true (addNew name member) table doc.fields with
        | none => refuse .overwrite rest
        | some fields =>
          let frozen := if isContainer member then (doc.header ++ key) :: doc.frozen else doc.frozen
          let pending := passed doc.header key ++ doc.pending
          return ({ doc with fields, frozen, pending }, rest)
  | rest => refuse .equals rest

def Document.settle (doc : Document) : Document :=
  { doc with declared := doc.pending ++ doc.declared, pending := [] }

def tableHeader (doc : Document) (t : Text) : Except Refusal (Part Document) := do
  let doc := doc.settle
  let (key, rest) ← key (skipSpace t)
  if doc.declared.contains key || liesWithin doc.frozen key then refuse (.declaredTwice key) rest
  else match changeTable true some key doc.fields with
    | none => refuse .overwrite rest
    | some fields =>
      match rest with
      | ']' :: rest =>
        return ({ doc with fields, header := key, declared := key :: doc.declared }, rest)
      | rest => refuse .headerEnd rest

def itemHeader (doc : Document) (t : Text) : Except Refusal (Part Document) := do
  let doc := doc.settle
  let (key, rest) ← key (skipSpace t)
  let (table, name) := splitKey key
  if liesWithin doc.frozen key then refuse (.immutable key) rest
  else match changeTable true (addItem name) table doc.fields with
    | none => refuse .overwrite rest
    | some fields =>
      match rest with
      | ']' :: ']' :: rest =>
        let reopened (paths : List Key) := paths.filter (fun path => !key.isPrefixOf path)
        let declared := key :: reopened doc.declared
        return ({ doc with fields, header := key, declared, frozen := reopened doc.frozen }, rest)
      | rest => refuse .arrayHeaderEnd rest

def startsKey (c : Char) : Bool := isBareKeyChar c || c == '"' || c == '\''

def statement (doc : Document) (t : Text) : Except Refusal (Part Document) :=
  match t with
  | '[' :: '[' :: rest => itemHeader doc rest
  | '[' :: rest => tableHeader doc rest
  | '#' :: _ => .ok (doc, t)
  | c :: _ => if startsKey c then assignment doc t else refuse .statement t
  | [] => .ok (doc, t)

def statements : Nat → Document → Text → Except Refusal Document
  | 0, doc, _ => .ok doc
  | fuel + 1, doc, t =>
    match skipSpace t with
    | [] => .ok doc
    | '\n' :: rest => statements fuel doc rest
    | start => do
      let (doc, rest) ← statement doc start
      let rest ← skipComment (skipSpace rest)
      match rest with
      | [] => return doc
      | '\n' :: rest => statements fuel doc rest
      | rest => refuse .lineEnd rest

inductive Defect where
  | malformed (text : Text)
  | digitLimit
  | nestingLimit
  deriving DecidableEq, Repr

def read (text : Text) : Except Defect Fields :=
  let document := text.joinBreaks
  match statements (document.length + 1) .empty document with
  | .ok doc => .ok doc.fields
  | .error .digitLimit => .error .digitLimit
  | .error .nestingLimit => .error .nestingLimit
  | .error (.malformed problem rest) =>
    .error (.malformed (problem.text ++ " (at " ++ place document rest ++ ")"))

end LintFindings.Toml
