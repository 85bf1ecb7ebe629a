/-!
# Characters that combine into one

A letter and a mark that have a common character for both (canonical compositions, Unicode 17.0; of
those that a label of a domain name may hold).

* `combined?`: the common character of two.
* `parts?`: the two that a character is made of.

Korean syllables are reckoned, all others are listed.
-/

namespace CloudOps

namespace Text

/-- The code point of a second character, then the first characters that it combines with, then
what comes out of each. -/
def combiningPairs : List (Nat × String × String) := [
  (0x300, "aeinouwyâêôüăēōơưαεηιουω",
    "àèìǹòùẁỳầềồǜằḕṑờừὰὲὴὶὸὺὼ"),
  (0x300, "ϊϋеиἀἁἐἑἠἡἰἱὀὁὐὑὠὡ",
    "ῒῢѐѝἂἃἒἓἢἣἲἳὂὃὒὓὢὣ"),
  (0x301, "acegiklmnoprsuwyzâåæçêïô",
    "áćéǵíḱĺḿńóṕŕśúẃýźấǻǽḉếḯố"),
  (0x301, "õøüăēōũơưαεηιουωϊϋгкἀἁἐἑ",
    "ṍǿǘắḗṓṹớứάέήίόύώΐΰѓќἄἅἔἕ"),
  (0x301, "ἠἡἰἱὀὁὐὑὠὡ",
    "ἤἥἴἵὄὅὔὕὤὥ"),
  (0x302, "aceghijosuwyzạẹọ",
    "âĉêĝĥîĵôŝûŵŷẑậệộ"),
  (0x303, "aeinouvyâêôăơư",
    "ãẽĩñõũṽỹẫễỗẵỡữ"),
  (0x304, "aegiouyäæõöüǫȧȯαιυиуḷṛ",
    "āēḡīōūȳǟǣȭȫǖǭǡȱᾱῑῡӣӯḹṝ"),
  (0x306, "aegiouȩαιυаежиуạ",
    "ăĕğĭŏŭḝᾰῐῠӑӗӂйўặ"),
  (0x307, "abcdefghmnoprstwxyzśšṣ𐗒𐗚",
    "ȧḃċḋėḟġḣṁṅȯṗṙṡṫẇẋẏżṥṧṩ𐗉𐗤"),
  (0x308, "aehiotuwxyõūιυаежзиоучыэ",
    "äëḧïöẗüẅẍÿṏṻϊϋӓёӝӟӥӧӱӵӹӭ"),
  (0x308, "іәө",
    "їӛӫ"),
  (0x309, "aeiouyâêôăơư",
    "ảẻỉỏủỷẩểổẳởử"),
  (0x30A, "auwy", "åůẘẙ"),
  (0x30B, "ouу", "őűӳ"),
  (0x30C, "acdeghijklnorstuzüʒ",
    "ǎčďěǧȟǐǰǩľňǒřšťǔžǚǯ"),
  (0x30F, "aeioruѵ", "ȁȅȉȍȑȕѷ"),
  (0x311, "aeioru", "ȃȇȋȏȓȗ"),
  (0x313, "αεηιορυω", "ἀἐἠἰὀῤὐὠ"),
  (0x314, "αεηιορυω", "ἁἑἡἱὁῥὑὡ"),
  (0x31B, "ou", "ơư"),
  (0x323, "abdehiklmnorstuvwyzơư",
    "ạḅḍẹḥịḳḷṃṇọṛṣṭụṿẉỵẓợự"),
  (0x324, "u", "ṳ"),
  (0x325, "a", "ḁ"),
  (0x326, "st", "șț"),
  (0x327, "cdeghklnrst",
    "çḑȩģḩķļņŗşţ"),
  (0x328, "aeiou", "ąęįǫų"),
  (0x32D, "delntu", "ḓḙḽṋṱṷ"),
  (0x32E, "h", "ḫ"),
  (0x330, "eiu", "ḛḭṵ"),
  (0x331, "bdhklnrtz",
    "ḇḏẖḵḻṉṟṯẕ"),
  (0x338, "<=>←→↔⇐⇒⇔∃∈∋∣∥∼≃≅≈≍≡≤≥≲≳",
    "≮≠≯↚↛↮⇍⇏⇎∄∉∌∤∦≁≄≇≉≭≢≰≱≴≵"),
  (0x338, "≶≷≺≻≼≽⊂⊃⊆⊇⊑⊒⊢⊨⊩⊫⊲⊳⊴⊵",
    "≸≹⊀⊁⋠⋡⊄⊅⊈⊉⋢⋣⊬⊭⊮⊯⋪⋫⋬⋭"),
  (0x342, "αηιυωϊϋἀἁἠἡἰἱὐὑὠὡ",
    "ᾶῆῖῦῶῗῧἆἇἦἧἶἷὖὗὦὧ"),
  (0x653, "\u0627", "\u0622"),
  (0x654, "\u0627\u0648\u064a\u06c1\u06d2\u06d5", "\u0623\u0624\u0626\u06c2\u06d3\u06c0"),
  (0x655, "\u0627", "\u0625"),
  (0x93C, "नरळ", "ऩऱऴ"),
  (0x9BE, "\u09c7", "\u09cb"),
  (0x9D7, "\u09c7", "\u09cc"),
  (0xB3E, "\u0b47", "\u0b4b"),
  (0xB56, "\u0b47", "\u0b48"),
  (0xB57, "\u0b47", "\u0b4c"),
  (0xBBE, "\u0bc6\u0bc7", "\u0bca\u0bcb"),
  (0xBD7, "ஒ\u0bc6", "ஔ\u0bcc"),
  (0xC56, "\u0c46", "\u0c48"),
  (0xCC2, "\u0cc6", "\u0cca"),
  (0xCD5, "\u0cbf\u0cc6\u0cca", "\u0cc0\u0cc7\u0ccb"),
  (0xCD6, "\u0cc6", "\u0cc8"),
  (0xD3E, "\u0d46\u0d47", "\u0d4a\u0d4b"),
  (0xD57, "\u0d46", "\u0d4c"),
  (0xDCA, "\u0dd9\u0ddc", "\u0dda\u0ddd"),
  (0xDCF, "\u0dd9", "\u0ddc"),
  (0xDDF, "\u0dd9", "\u0dde"),
  (0x102E, "ဥ", "ဦ"),
  (0x1B35, "ᬅᬇᬉᬋᬍᬑ\u1b3a\u1b3c\u1b3e\u1b3f\u1b42",
    "ᬆᬈᬊᬌᬎᬒ\u1b3b\u1b3d\u1b40\u1b41\u1b43"),
  (0x3099, "うかきくけこさしすせそたちつてとはひふへほゝウカ",
    "ゔがぎぐげござじずぜぞだぢづでどばびぶべぼゞヴガ"),
  (0x3099, "キクケコサシスセソタチツテトハヒフヘホワヰヱヲヽ",
    "ギグゲゴザジズゼゾダヂヅデドバビブベボヷヸヹヺヾ"),
  (0x309A, "はひふへほハヒフヘホ",
    "ぱぴぷぺぽパピプペポ"),
  (0x110BA, "𑂙𑂛𑂥", "𑂚𑂜𑂫"),
  (0x11127, "𑄱𑄲", "𑄮𑄯"),
  (0x1133E, "𑍇", "𑍋"),
  (0x11357, "𑍇", "𑍌"),
  (0x113B8, "𑏂", "𑏇"),
  (0x113BB, "𑎄", "𑎅"),
  (0x113C2, "𑎎", "𑎎𑏅"),
  (0x113C9, "𑎂𑎐𑏂", "𑎃𑎑𑏈"),
  (0x114B0, "𑒹", "𑒼"),
  (0x114BA, "𑒹", "𑒻"),
  (0x114BD, "𑒹", "𑒾"),
  (0x115AF, "𑖸𑖹", "𑖺𑖻"),
  (0x11930, "𑤵", "𑤸"),
  (0x1611E, "𖄞", "𖄡"),
  (0x1611F, "𖄡𖄡𖄩𖄩", "𖄣𖄦𖄧𖄤"),
  (0x16120, "𖄡𖄞", "𖄥𖄨"),
  (0x16129, "𖄞", "𖄢"),
  (0x16D67, "𖵩𖵩", "𖵪𖵧𖵪")]

/-- The common character of two that are in the list. -/
def listedCombined? (first second : Char) : Option Char :=
  combiningPairs.findSome? fun (code, firsts, combined) =>
    if code = second.toNat then (firsts.toList.zip combined.toList).lookup first else none

/-- The two characters that one in the list is made of. -/
def parts? (c : Char) : Option (Char × Char) :=
  combiningPairs.findSome? fun (code, firsts, combined) =>
    ((combined.toList.zip firsts.toList).lookup c).map fun first => (first, Char.ofNat code)

/-! ## Korean syllables

A syllable is a leading consonant, a vowel and perhaps a trailing consonant; the code points of
syllables are in the order of these three. -/

/-- The number of vowels. -/
def vowelCount : Nat := 21

/-- The number of trailing consonants, none included. -/
def trailingCount : Nat := 28

/-- The code points of leading consonants begin here, and there are nineteen of them. -/
def leadingStart : Nat := 0x1100

/-- The code points of vowels begin here. -/
def vowelStart : Nat := 0x1161

/-- The code points of trailing consonants begin behind this one. -/
def trailingStart : Nat := 0x11A7

/-- The code points of syllables begin here. -/
def syllableStart : Nat := 0xAC00

/-- The common character of two parts of a syllable. -/
def syllable? (first second : Char) : Option Char :=
  let leading := first.toNat - leadingStart
  let vowel := second.toNat - vowelStart
  let begun := first.toNat - syllableStart
  let trailing := second.toNat - trailingStart
  if leadingStart ≤ first.toNat ∧ leading < 19 ∧ vowelStart ≤ second.toNat ∧ vowel < vowelCount then
    some (Char.ofNat (syllableStart + (leading * vowelCount + vowel) * trailingCount))
  else if syllableStart ≤ first.toNat ∧ begun < 19 * vowelCount * trailingCount ∧
      begun % trailingCount = 0 ∧ 0 < trailing ∧ trailing < trailingCount then
    some (Char.ofNat (first.toNat + trailing))
  else none

/-- The common character of two. -/
def combined? (first second : Char) : Option Char :=
  (syllable? first second).or (listedCombined? first second)

end Text

end CloudOps
