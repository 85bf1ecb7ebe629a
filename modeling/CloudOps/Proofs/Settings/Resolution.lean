import CloudOps.Proofs.Text.Literal
import CloudOps.Proofs.Text.Quoted
import CloudOps.Settings.Test
import Mathlib.Data.List.Basic
import Mathlib.Data.Nat.Digits.Defs

/-!
# Test settings without a blank

* `hexBytes?`: the bytes that pairs of digits in base sixteen stand for.
  `hexBytes?_littleEndianHex`, `ofDigits_littleEndianBytes`: the bytes of a number come back from
  its digits, and the number from its bytes.
* `LegalBucketName`: the rules for the names of buckets. `legal_of_digits`: a name of the form that
  is made up for tests keeps them.
* `TestSettings.resolution`: what becomes of settings when every blank is filled in.
-/

namespace CloudOps

/-! ## Bytes in base sixteen -/

/-- The bytes that digits in base sixteen stand for, two digits for each byte. -/
def hexBytes? : List Char → Option (List UInt8)
  | [] => some []
  | [_] => none
  | high :: low :: rest => do
    let a ← Text.hexValue? high
    let b ← Text.hexValue? low
    return UInt8.ofNat (16 * a + b) :: (← hexBytes? rest)

/-- The digits of some bytes read as these bytes. -/
theorem hexBytes?_flatMap_byteHex (bytes : List UInt8) :
    hexBytes? (bytes.flatMap byteHex) = some bytes := by
  induction bytes with
  | nil => rfl
  | cons byte bytes ih =>
    have bound : byte.toNat < 256 := byte.toNat_lt
    have high : Text.hexValue? (Nat.digitChar (byte.toNat / 16)) = some (byte.toNat / 16) :=
      Text.hexValue?_digitChar _ (by omega)
    have low : Text.hexValue? (Nat.digitChar (byte.toNat % 16)) = some (byte.toNat % 16) :=
      Text.hexValue?_digitChar _ (by omega)
    have whole : UInt8.ofNat (16 * (byte.toNat / 16) + byte.toNat % 16) = byte := by
      rw [Nat.div_add_mod, UInt8.ofNat_toNat]
    rw [List.flatMap_cons, byteHex, List.cons_append, List.cons_append, List.nil_append, hexBytes?,
      high, low, ih]
    show some (UInt8.ofNat (16 * (byte.toNat / 16) + byte.toNat % 16) :: bytes) = _
    rw [whole]

/-- The lowest places of a number in base 256 stand for its remainder. -/
theorem ofDigits_places (places n : Nat) :
    Nat.ofDigits 256 ((List.range places).map fun i => n / 256 ^ i % 256) = n % 256 ^ places := by
  induction places generalizing n with
  | zero => simp [Nat.mod_one]
  | succ places ih =>
    have shifted : ((List.range places).map Nat.succ).map (fun i => n / 256 ^ i % 256) =
        (List.range places).map fun i => n / 256 / 256 ^ i % 256 := by
      rw [List.map_map]
      refine List.map_congr_left fun i _ => ?_
      rw [Function.comp_apply, Nat.pow_succ', Nat.div_div_eq_div_mul]
    rw [List.range_succ_eq_map, List.map_cons, shifted, Nat.ofDigits_cons, ih, Nat.pow_zero,
      Nat.div_one, Nat.pow_succ', Nat.mod_mul]

/-- The bytes of a number stand for the number. -/
theorem ofDigits_littleEndianBytes (word : UInt64) :
    Nat.ofDigits 256 ((littleEndianBytes word).map UInt8.toNat) = word.toNat := by
  have places : (littleEndianBytes word).map UInt8.toNat =
      (List.range 8).map fun i => word.toNat / 256 ^ i % 256 := by
    rw [littleEndianBytes, List.map_map]
    rfl
  rw [places, ofDigits_places]
  exact Nat.mod_eq_of_lt word.toNat_lt

/-- The lower-case digits in base sixteen. -/
def lowerHexDigits : List Char :=
  ['0', '1', '2', '3', '4', '5', '6', '7', '8', '9', 'a', 'b', 'c', 'd', 'e', 'f']

theorem digitChar_mem_lowerHexDigits : ∀ n < 16, Nat.digitChar n ∈ lowerHexDigits := by decide

theorem mem_lowerHexDigits_of_mem_byteHex {byte : UInt8} {c : Char} (h : c ∈ byteHex byte) :
    c ∈ lowerHexDigits := by
  have bound : byte.toNat < 256 := byte.toNat_lt
  simp only [byteHex, List.mem_cons, List.not_mem_nil, or_false] at h
  rcases h with rfl | rfl
  · exact digitChar_mem_lowerHexDigits _ (by omega)
  · exact digitChar_mem_lowerHexDigits _ (by omega)

/-! ## Names of buckets -/

/-- A lower-case letter or a digit. -/
def IsNameChar (c : Char) : Prop := ('a' ≤ c ∧ c ≤ 'z') ∨ ('0' ≤ c ∧ c ≤ '9')

instance (c : Char) : Decidable (IsNameChar c) :=
  inferInstanceAs (Decidable (('a' ≤ c ∧ c ≤ 'z') ∨ ('0' ≤ c ∧ c ≤ '9')))

/-- The beginnings that are kept for buckets of another kind. -/
def reservedBeginnings : List String := ["xn--", "sthree-", "amzn-s3-demo-"]

/-- The endings that are kept for buckets of another kind. -/
def reservedEndings : List String := ["-s3alias", "--ol-s3", ".mrap", "--x-s3", "--table-s3"]

/-- The rules for the names of buckets. -/
structure LegalBucketName (name : String) : Prop where
  length : 3 ≤ name.length ∧ name.length ≤ 63
  characters : ∀ c ∈ name.toList, IsNameChar c ∨ c = '.' ∨ c = '-'
  beginning : ∀ c, name.toList.head? = some c → IsNameChar c
  ending : ∀ c, name.toList.getLast? = some c → IsNameChar c
  /-- No two dots in a row. -/
  dots : ¬ ['.', '.'] <:+: name.toList
  /-- The name does not look like an address of four numbers. -/
  address : ∀ a b c d, Text.IsDigits a → Text.IsDigits b → Text.IsDigits c → Text.IsDigits d →
    name.toList ≠ a ++ '.' :: b ++ '.' :: c ++ '.' :: d
  notReserved : ∀ beginning ∈ reservedBeginnings, ¬ beginning.toList <+: name.toList
  notReserved' : ∀ ending ∈ reservedEndings, ¬ ending.toList <:+ name.toList

/-- The beginning of a name that is made up for a test. -/
def madeUpFront : List Char := ['t', 'e', 's', 't', '-', 'b', 'u', 'c', 'k', 'e', 't', '-']

theorem toList_madeUp (digits : List Char) :
    ("test-bucket-" ++ String.ofList digits).toList = madeUpFront ++ digits := by
  simp [madeUpFront]

/-- A name that is made up for a test keeps the rules, whatever its digits. -/
theorem legal_of_digits {digits : List Char} (count : digits.length = 16)
    (hex : ∀ c ∈ digits, c ∈ lowerHexDigits) :
    LegalBucketName ("test-bucket-" ++ String.ofList digits) := by
  have chars := toList_madeUp digits
  have letters : ∀ c ∈ lowerHexDigits, IsNameChar c := by
    simp [lowerHexDigits, IsNameChar]
  have plain : ∀ c ∈ digits, IsNameChar c := fun c h => letters c (hex c h)
  have undotted : '.' ∉ madeUpFront ++ digits := by
    rw [List.mem_append, not_or]
    exact ⟨by decide, fun h => absurd (plain _ h) (by decide)⟩
  constructor
  case length =>
    rw [← String.length_toList, chars, List.length_append, count]
    decide
  case characters =>
    rw [chars]
    have front : ∀ c ∈ madeUpFront, IsNameChar c ∨ c = '.' ∨ c = '-' := by
      simp [madeUpFront, IsNameChar]
    exact List.forall_mem_append.2 ⟨front, fun c h => .inl (plain c h)⟩
  case beginning =>
    rw [chars]
    rintro c ⟨⟩
    decide
  case ending =>
    intro c last
    have nonempty : digits ≠ [] := fun e => by simp [e] at count
    rw [chars, List.getLast?_append_of_ne_nil _ nonempty] at last
    exact plain c (List.mem_of_getLast? last)
  case dots =>
    rw [chars]
    exact fun h => undotted (h.subset (by simp))
  case address =>
    rw [chars]
    rintro a b c d - - - - same
    exact undotted (same ▸ by simp)
  case notReserved =>
    rw [chars]
    simp [reservedBeginnings, madeUpFront]
  case notReserved' =>
    rw [chars]
    intro ending listed h
    have short : ∀ ending ∈ reservedEndings, ending.toList.length ≤ 16 := by
      simp [reservedEndings]
    have foreign : ∀ ending ∈ reservedEndings, ∃ c ∈ ending.toList, c ∉ lowerHexDigits := by
      simp [reservedEndings, lowerHexDigits]
    obtain ⟨c, within, other⟩ := foreign ending listed
    have among : ending.toList <:+ digits :=
      List.suffix_of_suffix_length_le h (List.suffix_append madeUpFront digits)
        (count ▸ short ending listed)
    exact other (hex c (among.subset within))

namespace TestSettings

/-! ## Blanks -/

section Given

variable {value : Option String} {text : String}

theorem given_eq_none_iff : given value = none ↔ value = none ∨ value = some "" := by
  cases value with
  | none => simp [given]
  | some text => simp [given, Option.filter]

theorem given_eq_some_iff : given value = some text ↔ value = some text ∧ text ≠ "" := by
  simp [given, Option.filter_eq_some_iff]

/-- What stands for a blank or what was given is not empty. -/
theorem given_getD_ne_empty {spare : String} (h : spare ≠ "") : (given value).getD spare ≠ "" := by
  cases filled : given value with
  | none => exact h
  | some text => exact (given_eq_some_iff.1 filled).2

/-- What was given stays. -/
theorem given_getD_of_ne (nonempty : text ≠ "") (spare : String) :
    (given (some text)).getD spare = text := by
  rw [given_eq_some_iff.2 ⟨rfl, nonempty⟩, Option.getD_some]

end Given

/-! ## The law -/

/-- The name that is made up for a seed: a fixed beginning and the digits of the first number that
the generator gives. -/
structure MadeUp (seed : UInt64) (name : String) : Prop where
  /-- The digits stand for eight bytes, the lowest first. -/
  digits : ∃ digits bytes, name = "test-bucket-" ++ String.ofList digits ∧
    digits.length = 16 ∧ (∀ c ∈ digits, c ∈ lowerHexDigits) ∧
    hexBytes? digits = some bytes ∧ bytes.length = 8 ∧
    Nat.ofDigits 256 (bytes.map UInt8.toNat) = (Generator.ofSeed seed).next.1.toNat
  length : name.length = 28
  legal : LegalBucketName name

theorem madeUp_generatedBucketName (seed : UInt64) : MadeUp seed (generatedBucketName seed) := by
  let bytes := littleEndianBytes (Generator.ofSeed seed).next.1
  have count : (bytes.flatMap byteHex).length = 16 := by
    rw [length_flatMap_byteHex, littleEndianBytes_length]
  have hex : ∀ c ∈ bytes.flatMap byteHex, c ∈ lowerHexDigits := by
    intro c h
    obtain ⟨byte, -, digit⟩ := List.mem_flatMap.1 h
    exact mem_lowerHexDigits_of_mem_byteHex digit
  have read : hexBytes? (bytes.flatMap byteHex) = some bytes := hexBytes?_flatMap_byteHex bytes
  refine ⟨⟨bytes.flatMap byteHex, bytes, rfl, count, hex, read, littleEndianBytes_length _,
    ofDigits_littleEndianBytes _⟩, ?_, legal_of_digits count hex⟩
  have whole : (generatedBucketName seed).toList = madeUpFront ++ bytes.flatMap byteHex :=
    toList_madeUp _
  rw [← String.length_toList, whole, List.length_append, count]
  rfl

/-- The first number for a seed, and the name that its bytes make. -/
example : (Generator.ofSeed 0).next.1 = 0x7283e4c96896188c ∧
    generatedBucketName 0 = "test-bucket-8c189668c9e48372" := by decide

/-- What becomes of settings when every blank is filled in. -/
structure Resolution (settings : TestSettings) (seed : UInt64) : Prop where
  /-- No blank is left. -/
  filled : (settings.resolve seed).bucket ≠ "" ∧ (settings.resolve seed).filename ≠ "" ∧
    (settings.resolve seed).key ≠ ""
  /-- A bucket is made up exactly if none is given, or one without a name. -/
  generated : (settings.resolve seed).generatedBucket = true ↔
    settings.bucket = none ∨ settings.bucket = some ""
  /-- Then its name comes from the seed. -/
  named : (settings.resolve seed).generatedBucket = true →
    MadeUp seed (settings.resolve seed).bucket
  /-- What is given and not empty stays as it is. -/
  kept : ∀ text, text ≠ "" →
    (settings.bucket = some text → (settings.resolve seed).bucket = text) ∧
      (settings.filename = some text → (settings.resolve seed).filename = text) ∧
      (settings.key = some text → (settings.resolve seed).key = text)
  /-- Filling in again changes nothing, whatever the seed. Only the bucket is then a given one. -/
  stable : ∀ seed', resolve ⟨some (settings.resolve seed).bucket,
      some (settings.resolve seed).filename, some (settings.resolve seed).key⟩ seed' =
    { settings.resolve seed with generatedBucket := false }

/-- **Filling in the blanks of test settings.** -/
theorem resolution (settings : TestSettings) (seed : UInt64) : Resolution settings seed := by
  have bucket : (settings.resolve seed).bucket ≠ "" := by
    refine given_getD_ne_empty fun blank => ?_
    have length := (madeUp_generatedBucketName seed).length
    rw [blank] at length
    cases length
  have filename : (settings.resolve seed).filename ≠ "" := given_getD_ne_empty (by decide)
  have key : (settings.resolve seed).key ≠ "" := given_getD_ne_empty (by decide)
  have generated : (settings.resolve seed).generatedBucket = true ↔ given settings.bucket = none :=
    Option.isNone_iff_eq_none
  constructor
  case filled => exact ⟨bucket, filename, key⟩
  case generated => exact generated.trans given_eq_none_iff
  case named =>
    intro made
    rw [resolve, generated.1 made, Option.getD_none]
    exact madeUp_generatedBucketName seed
  case kept =>
    intro text nonempty
    refine ⟨?_, ?_, ?_⟩ <;> intro present <;> rw [resolve, present] <;>
      exact given_getD_of_ne nonempty _
  case stable =>
    intro seed'
    have given_bucket : given (some (settings.resolve seed).bucket) =
        some (settings.resolve seed).bucket :=
      given_eq_some_iff.2 ⟨rfl, bucket⟩
    rw [resolve, given_getD_of_ne bucket, given_getD_of_ne filename, given_getD_of_ne key,
      given_bucket]
    rfl

end TestSettings

end CloudOps
