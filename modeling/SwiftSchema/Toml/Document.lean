import SwiftSchema.Toml.Scalar

/-! # Building the tables of a TOML text

The expressions of a text are decoded and put into tables in order. A header `[a.b]` opens
the table at its path, making the tables on the way as needed; `[[a.b]]` adds a table to the
array of tables at its path; a pair `k.v = x` puts its value into the table last opened,
making a table for each dotted part. A table may be opened by a header only once, and only if
it was not made by a dotted key or written inline; a dotted key may only go on through tables
it made itself; no key may be given twice. Path steps through an array of tables go into its
last table.

* `Origin`, `Node` — tables while they are built.
* `readDocument` — the top table of a text, or its first fault: the first fault of its shape,
  else the first in decoding and building. Every table comes out in the order of its keys.
-/

namespace SwiftSchema.Toml

/-- How a table being built **came to be**. -/
inductive Origin where
  /-- Made on the way to a header's table. -/
  | implicit
  /-- Opened by its own header. -/
  | header
  /-- Made by a dotted key. -/
  | dotted
  deriving DecidableEq, Repr

/-- A value in a table being built. -/
inductive Node where
  /-- A value given after `=`, inline tables included. -/
  | value (item : Item)
  | table (origin : Origin) (span : Span) (entries : List (Key × Node))
  /-- An array of tables, each with the span of its header. -/
  | tables (span : Span) (items : List (Span × List (Key × Node)))
  deriving Repr

/-- The entries of a table being built. -/
abbrev Entries := List (Key × Node)

/-- The value of a name in the entries. -/
def Entries.find? (es : Entries) (name : String) : Option Node :=
  (List.find? (fun e => e.1.name = name) es).map (·.2)

/-- The entries with a value put at a key: in place when the name is there, else at the end. -/
def Entries.put (es : Entries) (k : Key) (n : Node) : Entries :=
  if es.any (·.1.name = k.name) then es.map fun e => if e.1.name = k.name then (e.1, n) else e
  else es ++ [(k, n)]

/-- The fault of a key given twice or a table opened twice. -/
def duplicateKey (k : Key) : ReadError := ⟨.malformed "duplicate key" none, some k.span⟩

/-- Go along a path of keys and change the table at its end. Along a header's path the steps
go through tables of every origin, made as needed, and into the last table of an array of
tables; along a dotted key they go only through tables that dotted keys made. -/
def Entries.along (isHeader : Bool) : List Key → Entries → (Entries → Except ReadError Entries) →
    Except ReadError Entries
  | [], es, f => f es
  | k :: ks, es, f =>
    match es.find? k.name with
    | none => do
      let sub ← Entries.along isHeader ks [] f
      pure (es.put k (.table (if isHeader then .implicit else .dotted) k.span sub))
    | some (.table o sp sub) =>
      if isHeader ∨ o = .dotted then do
        let sub ← Entries.along isHeader ks sub f
        pure (es.put k (.table o sp sub))
      else .error (duplicateKey k)
    | some (.tables sp items) =>
      match isHeader, items.getLast? with
      | true, some (s, sub) => do
        let sub ← Entries.along isHeader ks sub f
        pure (es.put k (.tables sp (items.dropLast ++ [(s, sub)])))
      | _, _ => .error (duplicateKey k)
    | some (.value _) => .error (duplicateKey k)

/-- Open a table at a key by its header: a new one, or one made on the way to another header. -/
def Entries.openTable (span : Span) (k : Key) (es : Entries) : Except ReadError Entries :=
  match es.find? k.name with
  | none => .ok (es.put k (.table .header span []))
  | some (.table .implicit _ sub) => .ok (es.put k (.table .header span sub))
  | some _ => .error (duplicateKey k)

/-- Add a table to the array of tables at a key, making the array when there is none. -/
def Entries.addTable (span : Span) (k : Key) (es : Entries) : Except ReadError Entries :=
  match es.find? k.name with
  | none => .ok (es.put k (.tables span [(span, [])]))
  | some (.tables sp items) => .ok (es.put k (.tables sp (items ++ [(span, [])])))
  | some _ => .error (duplicateKey k)

/-- Put a value at a key that is not there yet. -/
def Entries.putNew (k : Key) (item : Item) (es : Entries) : Except ReadError Entries :=
  match es.find? k.name with
  | none => .ok (es.put k (.value item))
  | some _ => .error (duplicateKey k)

/-- Entries in the order of their keys: tables are read back key by key in that order. -/
def sortedEntries (es : List (Key × Item)) : List (Key × Item) :=
  es.mergeSort fun a b => decide (a.1.name ≤ b.1.name)

mutual

/-- The value a table being built stands for. -/
def Node.item : Node → Item
  | .value i => i
  | .table _ sp es => .table (sortedEntries (entriesItems es)) sp
  | .tables sp items => .array (tablesItems items) sp

/-- The entries of a table being built, as values. -/
def entriesItems : Entries → List (Key × Item)
  | [] => []
  | (k, n) :: rest => (k, n.item) :: entriesItems rest

/-- The tables of an array of tables, as values. -/
def tablesItems : List (Span × Entries) → List Item
  | [] => []
  | (s, es) :: rest => .table (sortedEntries (entriesItems es)) s :: tablesItems rest

end

/-- A decoded key. -/
def keyOf (r : Raw) : Except ReadError Key := (⟨·, r.span⟩) <$> decodeKey r

/-- A path of keys cut into the steps before its last key and that key. -/
def splitLast (ks : List Key) : List Key × Key :=
  (ks.dropLast, ks.getLast?.getD ⟨"", ⟨0, 0⟩⟩)

mutual

/-- The **value** of a value as written: scalars decoded, inline tables built. -/
def decodeValue : RawValue → Except ReadError Item
  | .scalar r => decodeScalar r
  | .array sp items => (Item.array · sp) <$> decodeItems items
  | .inline sp entries => do
    let es ← decodeEntries entries []
    pure (.table (sortedEntries (entriesItems es)) sp)

/-- The values of the items of an array. -/
def decodeItems : List RawValue → Except ReadError (List Item)
  | [] => .ok []
  | v :: rest => do
    let i ← decodeValue v
    pure (i :: (← decodeItems rest))

/-- The entries of an inline table, each pair put in after the ones before it. -/
def decodeEntries : List (List Raw × RawValue) → Entries → Except ReadError Entries
  | [], es => .ok es
  | (keys, v) :: rest, es => do
    let ks ← keys.mapM keyOf
    let item ← decodeValue v
    let (path, last) := splitLast ks
    let es ← es.along false path (Entries.putNew last item)
    decodeEntries rest es

end

/-- The top table and the path of the table last opened, after one more expression. -/
def Entries.step (st : Entries × List Key) : Expression → Except ReadError (Entries × List Key)
  | .table keys span => do
    let ks ← keys.mapM keyOf
    let (path, last) := splitLast ks
    pure (← st.1.along true path (Entries.openTable span last), ks)
  | .tables keys span => do
    let ks ← keys.mapM keyOf
    let (path, last) := splitLast ks
    pure (← st.1.along true path (Entries.addTable span last), ks)
  | .keyval keys v => do
    let ks ← keys.mapM keyOf
    let item ← decodeValue v
    let (path, last) := splitLast ks
    let es ← st.1.along true st.2 fun es => es.along false path (Entries.putNew last item)
    pure (es, st.2)

/-- The **top table of a TOML text**, or its first fault. -/
def readDocument (s : String) : Except ReadError (List (Key × Item)) := do
  let exprs ← expressions (tokenize s)
  let (es, _) ← exprs.foldlM Entries.step ([], [])
  pure (sortedEntries (entriesItems es))

end SwiftSchema.Toml
