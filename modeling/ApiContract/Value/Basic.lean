import ApiContract.Entries
import ApiContract.Number.Binary64
import ApiContract.Text.Start
import ApiContract.Text.Units

/-!
# Values

Declarations are written with values of any kind, and the data that a
declaration describes is made of them: null, booleans, whole numbers, doubles,
texts, lists and dictionaries.  Besides, a declaration may name a type by a
built-in type or by a tag, and a component by the component itself.

Data may also hold a text that is none of characters, because half of a pair of
sixteen-bit units stands in it without the other half.  Such a text is kept as
its code points.

A dictionary is the list of its entries in order.  Two keys are the same when
they compare as equal, so `1`, `1.0` and `true` are one key, and so are a tag and
the text it is written as.
-/

namespace ApiContract

/-- The built-in types that a declaration may name. -/
inductive Builtin where
  | bool | int | float | str | dict | list | bytes | tuple | set | object
  deriving DecidableEq

/-- The name of a built-in type. -/
def Builtin.name : Builtin → String
  | .bool => "bool"
  | .int => "int"
  | .float => "float"
  | .str => "str"
  | .dict => "dict"
  | .list => "list"
  | .bytes => "bytes"
  | .tuple => "tuple"
  | .set => "set"
  | .object => "object"

/-- The tags that name the types of a schema. -/
inductive TypeTag where
  | number | string | boolean | object | array
  deriving DecidableEq

namespace TypeTag

/-- The tag as it is written in a schema. -/
def text : TypeTag → String
  | .number => "number"
  | .string => "string"
  | .boolean => "boolean"
  | .object => "object"
  | .array => "array"

/-- The tag as a declaration names it. -/
def name : TypeTag → String
  | .number => "NUMBER"
  | .string => "STRING"
  | .boolean => "BOOLEAN"
  | .object => "OBJECT"
  | .array => "ARRAY"

end TypeTag

/-- A value.  `component name` stands for an object component of that name. -/
inductive Value where
  | null
  | bool (b : Bool)
  | int (n : Int)
  | float (x : Binary64)
  | str (s : String)
  | unpaired (codes : List Nat)
  | list (items : List Value)
  | dict (entries : List (Value × Value))
  | builtin (type : Builtin)
  | tag (tag : TypeTag)
  | component (name : String)

namespace Value

instance : Inhabited Value :=
  ⟨.null⟩

/-! ### Deciding whether two values are identical -/

mutual

/-- Decides whether two values are identical. -/
def decEq : (v w : Value) → Decidable (v = w)
  | .null, .null => isTrue rfl
  | .bool a, .bool b => if h : a = b then isTrue (h ▸ rfl) else isFalse (by simpa using h)
  | .int a, .int b => if h : a = b then isTrue (h ▸ rfl) else isFalse (by simpa using h)
  | .float a, .float b => if h : a = b then isTrue (h ▸ rfl) else isFalse (by simpa using h)
  | .str a, .str b => if h : a = b then isTrue (h ▸ rfl) else isFalse (by simpa using h)
  | .unpaired a, .unpaired b =>
    if h : a = b then isTrue (h ▸ rfl) else isFalse (by simpa using h)
  | .list a, .list b =>
    match decEqList a b with
    | isTrue h => isTrue (h ▸ rfl)
    | isFalse h => isFalse (by simpa using h)
  | .dict a, .dict b =>
    match decEqEntries a b with
    | isTrue h => isTrue (h ▸ rfl)
    | isFalse h => isFalse (by simpa using h)
  | .builtin a, .builtin b => if h : a = b then isTrue (h ▸ rfl) else isFalse (by simpa using h)
  | .tag a, .tag b => if h : a = b then isTrue (h ▸ rfl) else isFalse (by simpa using h)
  | .component a, .component b =>
    if h : a = b then isTrue (h ▸ rfl) else isFalse (by simpa using h)
  | .null, .bool _ | .null, .int _ | .null, .float _ | .null, .str _ | .null, .unpaired _
  | .null, .list _ | .null, .dict _ | .null, .builtin _ | .null, .tag _ | .null, .component _
  | .bool _, .null | .bool _, .int _ | .bool _, .float _ | .bool _, .str _ | .bool _, .unpaired _
  | .bool _, .list _ | .bool _, .dict _ | .bool _, .builtin _ | .bool _, .tag _
  | .bool _, .component _ | .int _, .null | .int _, .bool _ | .int _, .float _ | .int _, .str _
  | .int _, .unpaired _ | .int _, .list _ | .int _, .dict _ | .int _, .builtin _ | .int _, .tag _
  | .int _, .component _ | .float _, .null | .float _, .bool _ | .float _, .int _
  | .float _, .str _ | .float _, .unpaired _ | .float _, .list _ | .float _, .dict _
  | .float _, .builtin _ | .float _, .tag _ | .float _, .component _ | .str _, .null
  | .str _, .bool _ | .str _, .int _ | .str _, .float _ | .str _, .unpaired _ | .str _, .list _
  | .str _, .dict _ | .str _, .builtin _ | .str _, .tag _ | .str _, .component _
  | .unpaired _, .null | .unpaired _, .bool _ | .unpaired _, .int _ | .unpaired _, .float _
  | .unpaired _, .str _ | .unpaired _, .list _ | .unpaired _, .dict _ | .unpaired _, .builtin _
  | .unpaired _, .tag _ | .unpaired _, .component _ | .list _, .null | .list _, .bool _
  | .list _, .int _ | .list _, .float _ | .list _, .str _ | .list _, .unpaired _
  | .list _, .dict _ | .list _, .builtin _ | .list _, .tag _ | .list _, .component _
  | .dict _, .null | .dict _, .bool _ | .dict _, .int _ | .dict _, .float _ | .dict _, .str _
  | .dict _, .unpaired _ | .dict _, .list _ | .dict _, .builtin _ | .dict _, .tag _
  | .dict _, .component _ | .builtin _, .null | .builtin _, .bool _ | .builtin _, .int _
  | .builtin _, .float _ | .builtin _, .str _ | .builtin _, .unpaired _ | .builtin _, .list _
  | .builtin _, .dict _ | .builtin _, .tag _ | .builtin _, .component _ | .tag _, .null
  | .tag _, .bool _ | .tag _, .int _ | .tag _, .float _ | .tag _, .str _ | .tag _, .unpaired _
  | .tag _, .list _ | .tag _, .dict _ | .tag _, .builtin _ | .tag _, .component _
  | .component _, .null | .component _, .bool _ | .component _, .int _ | .component _, .float _
  | .component _, .str _ | .component _, .unpaired _ | .component _, .list _
  | .component _, .dict _ | .component _, .builtin _ | .component _, .tag _ => isFalse (by simp)

/-- Decides whether two lists of values are identical. -/
def decEqList : (vs ws : List Value) → Decidable (vs = ws)
  | [], [] => isTrue rfl
  | [], _ :: _ | _ :: _, [] => isFalse (by simp)
  | v :: vs, w :: ws =>
    match decEq v w, decEqList vs ws with
    | isTrue h, isTrue k => isTrue (by rw [h, k])
    | isFalse h, _ => isFalse (by simp [h])
    | _, isFalse k => isFalse (by simp [k])

/-- Decides whether the entries of two dictionaries are identical. -/
def decEqEntries : (es fs : List (Value × Value)) → Decidable (es = fs)
  | [], [] => isTrue rfl
  | [], _ :: _ | _ :: _, [] => isFalse (by simp)
  | (k, v) :: es, (l, w) :: fs =>
    match decEq k l, decEq v w, decEqEntries es fs with
    | isTrue h, isTrue i, isTrue j => isTrue (by rw [h, i, j])
    | isFalse h, _, _ => isFalse (by simp [h])
    | _, isFalse i, _ => isFalse (by simp [i])
    | _, _, isFalse j => isFalse (by simp [j])

end

instance : DecidableEq Value :=
  decEq

/-! ### Keys -/

/-- Whether a value may be a key: lists, dictionaries and components may not. -/
def isKey : Value → Bool
  | .list _ | .dict _ | .component _ => false
  | _ => true

/-- The number that a value is; booleans are `0` and `1`. -/
def number? : Value → Option (Int ⊕ Binary64)
  | .bool b => some (.inl b.toNat)
  | .int n => some (.inl n)
  | .float x => some (.inr x)
  | _ => none

/-- Whether two numbers compare as equal. -/
def sameNumber : Int ⊕ Binary64 → Int ⊕ Binary64 → Bool
  | .inl m, .inl n => m == n
  | .inl m, .inr y => y.sameInt m
  | .inr x, .inl n => x.sameInt n
  | .inr x, .inr y => x.same y

/-- The text that a value is: a tag is the text it is written as. -/
def text? : Value → Option String
  | .str s => some s
  | .tag t => some t.text
  | _ => none

/-- The text of some code points, whether or not all of them are characters. -/
def ofCodes (codes : List Nat) : Value :=
  if codes.any Text.isHalf then .unpaired codes else .str (String.ofList (codes.map Char.ofNat))

/-- Whether two values are one key of a dictionary. -/
def sameKey : Value → Value → Bool
  | .null, .null => true
  | .builtin s, .builtin t => s == t
  | .unpaired s, .unpaired t => s == t
  | v, w =>
    match v.text?, w.text? with
    | some s, some t => s == t
    | _, _ =>
      match v.number?, w.number? with
      | some m, some n => sameNumber m n
      | _, _ => false

@[simp]
theorem sameKey_str (s t : String) : sameKey (.str s) (.str t) = (s == t) :=
  rfl

/-- Store something under a key, as a dictionary does. -/
def putKey {α : Type} (entries : Entries Value α) (k : Value) (a : α) : Entries Value α :=
  Entries.putBy sameKey k a entries

/-- The dictionary that storing some entries, first to last, gives. -/
def dictOf (entries : List (Value × Value)) : Value :=
  .dict (entries.foldl (fun es e => putKey es e.1 e.2) [])

/-- A dictionary whose keys are texts. -/
def record (entries : Entries String Value) : Value :=
  .dict (entries.map fun e => (.str e.1, e.2))

/-! ### Comparing values -/

mutual

/-- Whether two values compare as equal: lists item by item, dictionaries key by
key in any order, and what may be a key as keys do. -/
def same : Value → Value → Bool
  | .list vs, .list ws => sameItems vs ws
  | .dict es, .dict fs => es.length == fs.length && sameEntries es fs
  | .component s, .component t => s == t
  | v, w => sameKey v w

/-- Whether two lists compare as equal item by item. -/
def sameItems : List Value → List Value → Bool
  | [], [] => true
  | v :: vs, w :: ws => same v w && sameItems vs ws
  | _, _ => false

/-- Whether every entry has one with the same key and an equal value among
`others`. -/
def sameEntries : List (Value × Value) → List (Value × Value) → Bool
  | [], _ => true
  | (k, v) :: rest, others =>
    (match others.find? (sameKey ·.1 k) with
      | some e => same v e.2
      | none => false) && sameEntries rest others

end

/-- Whether a value counts as given: null, `false`, zero and everything empty
do not. -/
def isGiven : Value → Bool
  | .null => false
  | .bool b => b
  | .int n => n != 0
  | .float x => !x.sameInt 0
  | .str s => !s.isEmpty
  | .unpaired codes => !codes.isEmpty
  | .list vs => !vs.isEmpty
  | .dict es => !es.isEmpty
  | .builtin _ | .tag _ | .component _ => true

/-! ### Going through values -/

/-- The fields of a component that stands as a value. -/
def componentEntries (name : String) : List (Value × Value) :=
  [(.str "type", .str "object"), (.str "of", .null), (.str "description", .str ""),
    (.str "as_", .null), (.str "enum", .null), (.str "allowable_values", .null),
    (.str "nullable", .bool false), (.str "properties", .dict []), (.str "name", .str name)]

/-- A component as the list of its fields, each with its value. -/
def componentItems (name : String) : List Value :=
  (componentEntries name).map fun e => .list [e.1, e.2]

/-- The items of a value that is taken for a list: a component is the list of its
fields. -/
def listed? : Value → Option (List Value)
  | .list vs => some vs
  | .component name => some (componentItems name)
  | _ => none

/-- What a value gives when it is gone through item by item. -/
def items? : Value → Option (List Value)
  | .list vs => some vs
  | .dict es => some (es.map (·.1))
  | .component name => some (componentItems name)
  | .unpaired codes => some (codes.map fun n => ofCodes [n])
  | v => v.text?.map fun s => s.toList.map fun c => .str (String.singleton c)

/-- Whether a text stands in a value: as an item of a list, a key of a dictionary
or a part of a text.  Values that are none of these cannot be searched. -/
def holds? (s : String) : Value → Option Bool
  | .list vs => some (vs.any (same (.str s)))
  | .dict es => some (es.any fun e => sameKey e.1 (.str s))
  | .component _ => some false
  | .unpaired codes => some (Text.isPart (s.toList.map Char.toNat) codes)
  | v => v.text?.map fun t => Text.isPart s.toList t.toList

example : sameKey (.bool true) (.float (Binary64.ofInt 1)) = true := by decide +kernel

example : dictOf [(.int 1, .str "a"), (.bool true, .str "b")] = .dict [(.int 1, .str "b")] := by
  decide +kernel

end Value

end ApiContract
