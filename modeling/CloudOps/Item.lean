import CloudOps.Text.Numeral

/-!
# Items of a table

* `AttributeValue`: what an attribute holds. Numbers are kept as text.
* `Item`: attributes with their names; the first of a name counts.
* `AttributeValue.same`: equality of values, where maps are compared as maps.
* `Item.matches`: an item has all the attributes of a key.
-/

namespace CloudOps

/-- The value of an attribute. -/
inductive AttributeValue
  | string (value : String)
  | number (text : String)
  | boolean (value : Bool)
  | null (value : Bool)
  | binary (bytes : List UInt8)
  | stringSet (values : List String)
  | numberSet (values : List String)
  | list (values : List AttributeValue)
  | map (entries : List (String × AttributeValue))

/-- The attributes of an item. -/
abbrev Item := List (String × AttributeValue)

/-- The value of an attribute of an item. -/
def Item.get? (item : Item) (name : String) : Option AttributeValue := item.lookup name

namespace AttributeValue

mutual

/-- Two values are the same. -/
def same : AttributeValue → AttributeValue → Bool
  | .string a, .string b => a == b
  | .number a, .number b => a == b
  | .boolean a, .boolean b => a == b
  | .null a, .null b => a == b
  | .binary a, .binary b => a == b
  | .stringSet a, .stringSet b => a == b
  | .numberSet a, .numberSet b => a == b
  | .list a, .list b => sameAll a b
  | .map a, .map b => a.length == b.length && sameEntries a b
  | _, _ => false

/-- Two lists hold the same values in the same order. -/
def sameAll : List AttributeValue → List AttributeValue → Bool
  | [], [] => true
  | a :: as, b :: bs => same a b && sameAll as bs
  | _, _ => false

/-- Every entry of the first map is in the second. -/
def sameEntries : List (String × AttributeValue) → List (String × AttributeValue) → Bool
  | [], _ => true
  | (name, a) :: as, bs => sameIn a (bs.lookup name) && sameEntries as bs

/-- A value is the one that a map has, if it has one. -/
def sameIn : AttributeValue → Option AttributeValue → Bool
  | _, none => false
  | a, some b => same a b

end

end AttributeValue

/-- The item has every attribute of the key. -/
def Item.matches (item key : Item) : Bool := AttributeValue.sameEntries key item

end CloudOps
