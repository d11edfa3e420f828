import Colloquy.Filter.Basic

/-! Filters on sequences: picking, ordering, cutting and joining their items. Those that cut a sequence or drop
repetitions yield their results one by one, so that a misuse shows only when the results are taken. -/
namespace Colloquy.Filter

/-- The first item, if there is one. -/
def firstItem (subject : Option Value) (_ : String → Value) : Filtered := do
  match ← defined subject with
  | .range start stop step => return Value.rangeItem? start stop step 0
  | value =>
    match ← value.iterate with
    | (item :: _, _) => return some item
    | ([], none) => return none
    | ([], some misuse) => throw misuse

/-- The last item, if there is one. -/
def lastItem (subject : Option Value) (_ : String → Value) : Filtered := do
  match ← defined subject with
  | .range start stop step => return Value.rangeItem? start stop step (-1)
  | value => return (← value.reversed).head?

/-- The items in reverse order; a text is reversed as a text. -/
def reverseOf (value : Value) : Except Misuse Value :=
  match value with
  | .text s => .ok (.text (String.ofList s.toList.reverse))
  | .safe s => .ok (.safe (String.ofList s.toList.reverse))
  | value =>
    match value.reversed with
    | .ok items => .ok (.stream items none)
    | .error _ =>
      match value.iterate with
      | .ok (items, none) => .ok (.list items.reverse)
      | .ok (_, some .wrongType) | .error .wrongType => .error (.badArgument "argument must be iterable")
      | .ok (_, some misuse) => .error misuse
      | .error misuse => .error misuse

/-- The key of an item in an order: the values of its attributes. -/
abbrev Key := List (Option Value)

/-- Equality of key parts; a part that is not defined cannot be compared. -/
def eqPart : Option Value → Option Value → Except Misuse Bool
  | some a, some b => .ok (a.eq b)
  | _, _ => .error .undefined

/-- Order of key parts. -/
def ltPart : Option Value → Option Value → Except Misuse Bool
  | some a, some b => a.lt? b
  | _, _ => .error .undefined

/-- Order of keys by the first part that differs. -/
def ltKey : Key → Key → Except Misuse Bool
  | a :: as, b :: bs =>
    match eqPart a b with
    | .error misuse => .error misuse
    | .ok true => ltKey as bs
    | .ok false => ltPart a b
  | [], _ :: _ => .ok true
  | _, [] => .ok false

/-- Whether case counts, applied to a value that may not be defined. -/
def cased (sensitive : Bool) (value : Option Value) : Option Value :=
  if sensitive then value else value.map ignoringCase

/-- The key of an item for several attributes. -/
def keyOf (sensitive : Bool) (attributes : List (List Value)) (item : Value) : Except Misuse Key :=
  attributes.mapM fun parts => (attributeOf (some item) parts).map (cased sensitive)

/-- Sorts items by their keys, the other way round on demand; equal items keep their order. -/
def sortedBy {α : Type} (keyOf : α → Except Misuse Key) (reverse : Bool) (items : List α) :
    Except Misuse (List α) := do
  let keyed ← items.mapM fun item => (keyOf item).map fun key => (key, item)
  let lt (a b : Key × α) := ltKey a.1 b.1
  let sorted ← Value.sortBy lt (if reverse then keyed.reverse else keyed)
  return (if reverse then sorted.reverse else sorted).map Prod.snd

/-- The attributes that a value names: a text may name several, with commas between. -/
def attributesOf : Value → List (List Value)
  | .text s | .safe s => (s.splitOn ",").map fun name => attributeParts (.text name)
  | value => [attributeParts value]

/-- The items in order. -/
def sorted (value : Value) (argument : String → Value) : Except Misuse Value := do
  let items ← value.collect
  let sensitive := (argument "case_sensitive").isTrue
  let reverse ← bounded 31 (argument "reverse")
  return .list (← sortedBy (keyOf sensitive (attributesOf (argument "attribute"))) (reverse != 0) items)

/-- The members of a mapping as pairs, in the order of their names or of their values. -/
def sortedMembers (value : Value) (argument : String → Value) : Except Misuse Value := do
  let byValue ← match (argument "by").text? with
    | some "key" => .ok false
    | some "value" => .ok true
    | _ => .error (.badArgument "You can only sort by either \"key\" or \"value\"")
  let .mapping fields := value | throw .noAttribute
  let sensitive := (argument "case_sensitive").isTrue
  let reverse ← bounded 31 (argument "reverse")
  let key (member : String × Value) : Except Misuse Key :=
    .ok [cased sensitive (some (if byValue then member.2 else .text member.1))]
  let members ← sortedBy key (reverse != 0) fields
  return .list (members.map fun (name, value) => .tuple [.text name, value])

/-- The item whose key comes before all others under `before`, the first of several. -/
def extremeOf (before : Key → Key → Except Misuse Bool) (best : Key × Value) :
    List (Key × Value) → Except Misuse Value
  | [] => .ok best.2
  | next :: rest =>
    match before next.1 best.1 with
    | .error misuse => .error misuse
    | .ok true => extremeOf before next rest
    | .ok false => extremeOf before best rest

/-- The least or greatest item of a sequence, if there is one. -/
def extreme (before : Key → Key → Except Misuse Bool) : Filter :=
  .plain [.optional "case_sensitive" (.bool false), .optional "attribute" .null] fun subject argument => do
    let items ← (← defined subject).collect
    let sensitive := (argument "case_sensitive").isTrue
    let parts := [attributeParts (argument "attribute")]
    let keyed ← items.mapM fun item => (keyOf sensitive parts item).map fun key => (key, item)
    match keyed with
    | [] => return none
    | first :: rest => return some (← extremeOf before first rest)

/-- Order of keys of one part. -/
def ltSingle : Key → Key → Except Misuse Bool
  | a :: _, b :: _ => ltPart a b
  | _, _ => .ok false

mutual

/-- Whether a value can be told apart from others by its contents once and for all. -/
def isFixed : Value → Bool
  | .list _ | .mapping _ | .model _ _ => false
  | .tuple items => areFixed items
  | _ => true

/-- Whether all items can. -/
def areFixed : List Value → Bool
  | [] => true
  | item :: rest => isFixed item && areFixed rest

end

/-- The items whose keys have not been seen before, up to a misuse. -/
def distinct (sensitive : Bool) (parts : List Value) (seen : List Value) (ending : Option Misuse) :
    List Value → List Value × Option Misuse
  | [] => ([], ending)
  | item :: rest =>
    match (attributeOf (some item) parts).map (cased sensitive) with
    | .error misuse => ([], some misuse)
    | .ok none => ([], some .undefined)
    | .ok (some key) =>
      if !isFixed key then ([], some .wrongType)
      else if seen.any key.eq then distinct sensitive parts seen ending rest
      else
        let (more, ending) := distinct sensitive parts (key :: seen) ending rest
        (item :: more, ending)

/-- What a value yields, a value that yields nothing ending at once in its misuse. -/
def itemsOf (subject : Option Value) : List Value × Option Misuse :=
  match subject with
  | none => ([], some .undefined)
  | some value =>
    match value.iterate with
    | .ok found => found
    | .error misuse => ([], some misuse)

/-- The items without repetitions. -/
def unique (subject : Option Value) (argument : String → Value) : Filtered :=
  let (items, ending) := itemsOf subject
  let sensitive := (argument "case_sensitive").isTrue
  let (kept, ending) := distinct sensitive (attributeParts (argument "attribute")) [] ending items
  .ok (some (.stream kept ending))

/-- Cuts items into groups of `size`, given the current group in reverse; a size of zero leaves one empty group in
front. -/
def grouped (size : Option Nat) (group : List Value) : List Value → List (List Value) × List Value
  | [] => ([], group.reverse)
  | item :: rest =>
    if size == some group.length then
      let (groups, last) := grouped (if size == some 0 then none else size) [item] rest
      (group.reverse :: groups, last)
    else grouped size (item :: group) rest

/-- Groups of a number of items, the last one filled up on demand. -/
def batch (subject : Option Value) (argument : String → Value) : Filtered :=
  let (items, ending) := itemsOf subject
  let count := whole (argument "linecount")
  let size := match count with
    | .ok n => if 0 ≤ n then some n.toNat else none
    | .error _ => none
  let (groups, last) := grouped size [] items
  let full := groups.map Value.list
  match ending with
  | some misuse => .ok (some (.stream full (some misuse)))
  | none =>
    if last.isEmpty then .ok (some (.stream full none))
    else
      match argument "fill_with", count with
      | .null, _ => .ok (some (.stream (full ++ [.list last]) none))
      | _, .error misuse => .ok (some (.stream full (some misuse)))
      | filler, .ok n =>
        let missing := List.replicate (n.toNat - last.length) filler
        .ok (some (.stream (full ++ [.list (last ++ missing)]) none))

/-- One of `count` nearly equal parts of a sequence, longer ones first. -/
def slicePart (items : List Value) (count index : Nat) (filler : Value) : Value :=
  let size := items.length / count
  let extra := items.length % count
  let start := index * size + min index extra
  let part := (items.drop start).take (if index < extra then size + 1 else size)
  match filler with
  | .null => .list part
  | filler => .list (if index < extra then part else part ++ [filler])

/-- A number of nearly equal parts, the shorter ones filled up on demand. -/
def slice (subject : Option Value) (argument : String → Value) : Filtered :=
  match itemsOf subject with
  | (_, some misuse) => .ok (some (.stream [] (some misuse)))
  | (items, none) =>
    match whole (argument "slices") with
    | .error misuse => .ok (some (.stream [] (some misuse)))
    | .ok 0 => .ok (some (.stream [] (some .zeroDivision)))
    | .ok n =>
      let parts := (List.range n.toNat).map fun i => slicePart items n.toNat i (argument "fill_with")
      .ok (some (.stream parts none))

/-- The members of a mapping as pairs; what is not defined has none. -/
def members (subject : Option Value) (_ : String → Value) : Filtered :=
  match subject with
  | none => .ok (some (.stream [] none))
  | some (.mapping fields) =>
    .ok (some (.stream (fields.map fun (name, value) => .tuple [.text name, value]) none))
  | some _ => .ok (some (.stream [] (some .wrongType)))

/-- The texts of the items with a text between them. -/
def join (value : Value) (argument : String → Value) : Except Misuse Value := do
  let between := (argument "d").asText
  let parts := attributeParts (argument "attribute")
  let (items, ending) ← value.iterate
  let shown ← items.mapM fun item => do return (← defined (← attributeOf (some item) parts)).asText
  match ending with
  | some misuse => throw misuse
  | none => return .text (between.intercalate shown)

/-- The number of items. -/
def lengthFilter : Filter := total [] fun value _ =>
  match value.length? with
  | some n => .ok (.int n)
  | none => .error .wrongType

/-- The filters on sequences. -/
def sequences : Fields Filter := [
  ("first", .plain [] firstItem),
  ("last", .plain [] lastItem),
  ("length", lengthFilter),
  ("count", lengthFilter),
  ("list", total [] fun value _ => value.collect.map .list),
  ("reverse", total [] fun value _ => reverseOf value),
  ("sort", total [.optional "reverse" (.bool false), .optional "case_sensitive" (.bool false),
    .optional "attribute" .null] sorted),
  ("dictsort", total [.optional "case_sensitive" (.bool false), .optional "by" (.text "key"),
    .optional "reverse" (.bool false)] sortedMembers),
  ("min", extreme ltSingle),
  ("max", extreme fun a b => ltSingle b a),
  ("unique", .plain [.optional "case_sensitive" (.bool false), .optional "attribute" .null] unique),
  ("batch", .plain [.required "linecount", .optional "fill_with" .null] batch),
  ("slice", .plain [.required "slices", .optional "fill_with" .null] slice),
  ("items", .plain [] members),
  ("join", total [.optional "d" (.text ""), .optional "attribute" .null] join)]

end Colloquy.Filter
