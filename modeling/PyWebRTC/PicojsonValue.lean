import PyWebRTC.DoubleRounding
import PyWebRTC.Utf8

/-!
# picojson values

The variant `picojson::value` with 64-bit integers off, and its accessors. A
number is finite by its type, as the constructor throws for any other. An
object is the list of a `std::map`'s entries in key order.
-/

namespace PyWebRTC.PicojsonValue

open DoubleRounding (Double roundRatio)

set_option autoImplicit false

abbrev Bytes := List UInt8

inductive Value where
  | null
  | boolean (value : Bool)
  | number (value : Double)
  | string (value : Bytes)
  | array (items : List Value)
  | object (entries : List (Bytes × Value))

/-- What picojson and `std::map::at` throw. -/
inductive Exception where
  | typeMismatch
  | outOfRange
  | overflowError
  deriving DecidableEq

section StdMap

variable {Item : Type*}

/-- Put an entry in its place in the key order; `resolve` chooses between the
item that is there and the new one. -/
def upsert (resolve : Item → Item → Item) (key : Bytes) (item : Item) :
    List (Bytes × Item) → List (Bytes × Item)
  | [] => [(key, item)]
  | (firstKey, firstItem) :: rest =>
      if key = firstKey then (firstKey, resolve firstItem item) :: rest
      else if key < firstKey then (key, item) :: (firstKey, firstItem) :: rest
      else (firstKey, firstItem) :: upsert resolve key item rest

def insert (key : Bytes) (item : Item) : List (Bytes × Item) → List (Bytes × Item) :=
  upsert (fun old _ => old) key item

def assign (key : Bytes) (item : Item) : List (Bytes × Item) → List (Bytes × Item) :=
  upsert (fun _ new => new) key item

def mapAt (key : Bytes) (entries : List (Bytes × Item)) : Except Exception Item :=
  match entries.lookup key with
  | some item => .ok item
  | none => .error .outOfRange

end StdMap

/-- The assertion of every `get<ctype>`. -/
def get {Item : Type*} (select : Value → Option Item) (value : Value) : Except Exception Item :=
  match select value with
  | some item => .ok item
  | none => .error .typeMismatch

def getDouble : Value → Except Exception Double :=
  get fun | .number value => some value | _ => none

def getString : Value → Except Exception Bytes :=
  get fun | .string value => some value | _ => none

def getArray : Value → Except Exception (List Value) :=
  get fun | .array items => some items | _ => none

def getObject : Value → Except Exception (List (Bytes × Value)) :=
  get fun | .object entries => some entries | _ => none

/-- The constructor from a `double` that may be infinite. -/
def ofDouble : Option Double → Except Exception Value
  | some value => .ok (.number value)
  | none => .error .overflowError

end PyWebRTC.PicojsonValue
