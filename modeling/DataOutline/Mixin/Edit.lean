import DataOutline.Mixin.Path

/-!
# Removing and adding parts

A mixin derives a value from a base: first some paths are removed from it, then others are added. A
key that meets an array is applied to each of its items. Removal asks for the part to be there;
addition makes the objects that are missing on the way, overwrites what is in place, and may put an
item right behind the last one of an array.
-/

namespace DataOutline.Mixin

mutual

/-- A value without the part at the end of a path. -/
def remove : Value → Path → Except MixinError Value
  | .array items unordered, path =>
    match path with
    | [] => .error .emptyPath
    | .key _ :: _ => (.array · unordered) <$> removeEach items path
    | .index i :: rest =>
      if items.length ≤ i then .error (.removeIndexOutOfRange i items.length)
      else if rest.isEmpty then .ok (.array (items.eraseIdx i) unordered)
      else (.array · unordered) <$> removeAt items i rest
  | .object entries, path =>
    match path with
    | [] => .error .emptyPath
    | .index i :: _ => .error (.removeNumericKey i)
    | .key k :: rest =>
      if !Entries.contains k entries then .error (.missingKey k)
      else if rest.isEmpty then .ok (.object (Entries.erase k entries))
      else .object <$> removeUnder entries k rest
  | _, [] => .error .emptyPath
  | _, segment :: _ => .error (.removeFromNonObject segment.text)

/-- Each item without the part at the end of a path. -/
def removeEach : List Value → Path → Except MixinError (List Value)
  | [], _ => .ok []
  | x :: xs, path => do
    let x ← remove x path
    let xs ← removeEach xs path
    return x :: xs

/-- Items of which the one at an index is without a part. -/
def removeAt : List Value → Nat → Path → Except MixinError (List Value)
  | [], _, _ => .ok []
  | x :: xs, 0, path => (· :: xs) <$> remove x path
  | x :: xs, i + 1, path => (x :: ·) <$> removeAt xs i path

/-- Entries of which the one of a name is without a part. -/
def removeUnder : List (String × Value) → String → Path →
    Except MixinError (List (String × Value))
  | [], _, _ => .ok []
  | (k, x) :: es, key, path =>
    if k = key then (fun x => (k, x) :: es) <$> remove x path
    else ((k, x) :: ·) <$> removeUnder es key path

end

/-- The object that holds nothing but a value at the end of a path. -/
def nested (value : Value) : Path → Except MixinError Value
  | [] => .error .emptyPath
  | .index i :: _ => .error (.addNumericKey i)
  | [.key k] => .ok (.object [(k, value)])
  | .key k :: rest => (fun inner => .object [(k, inner)]) <$> nested value rest

mutual

/-- A value with a part put at the end of a path. -/
def add (value : Value) : Value → Path → Except MixinError Value
  | .array items unordered, path =>
    match path with
    | [] => .error .emptyPath
    | .key _ :: _ => (.array · unordered) <$> addEach value items path
    | .index i :: rest =>
      if items.length < i then .error (.addIndexOutOfRange i items.length)
      else
        match rest with
        | [] =>
          .ok (.array (if i = items.length then items ++ [value] else items.set i value) unordered)
        | next :: _ =>
          if i = items.length then .error (.addToNonObject next.text)
          else (.array · unordered) <$> addAt value items i rest
  | .object entries, path =>
    match path with
    | [] => .error .emptyPath
    | .index i :: _ => .error (.addNumericKey i)
    | .key k :: rest =>
      if rest.isEmpty then .ok (.object (Entries.insert k value entries))
      else if Entries.contains k entries then .object <$> addUnder value entries k rest
      else (fun inner => .object (entries ++ [(k, inner)])) <$> nested value rest
  | _, [] => .error .emptyPath
  | _, segment :: _ => .error (.addToNonObject segment.text)

/-- Each item with a part put at the end of a path. -/
def addEach (value : Value) : List Value → Path → Except MixinError (List Value)
  | [], _ => .ok []
  | x :: xs, path => do
    let x ← add value x path
    let xs ← addEach value xs path
    return x :: xs

/-- Items of which the one at an index gets a part. -/
def addAt (value : Value) : List Value → Nat → Path → Except MixinError (List Value)
  | [], _, _ => .ok []
  | x :: xs, 0, path => (· :: xs) <$> add value x path
  | x :: xs, i + 1, path => (x :: ·) <$> addAt value xs i path

/-- Entries of which the one of a name gets a part. -/
def addUnder (value : Value) : List (String × Value) → String → Path →
    Except MixinError (List (String × Value))
  | [], _, _ => .ok []
  | (k, x) :: es, key, path =>
    if k = key then (fun x => (k, x) :: es) <$> add value x path
    else ((k, x) :: ·) <$> addUnder value es key path

end

/-- A base without some parts and with others: every removal in turn, then every addition. -/
def apply (base : Value) (removals : List Path) (additions : List (Path × Value)) :
    Except MixinError Value := do
  if !base.isStructured then throw (.invalidBase base.typeName)
  let reduced ← removals.foldlM remove base
  additions.foldlM (fun current (path, value) => add value current path) reduced

end DataOutline.Mixin
