import MailSync.Text.Mark

/-!
# Composition

Letters and the marks on them, joined into one character where there is one.
Composition takes a text apart, sorts the marks on each letter by rank, and
joins what can be joined, so texts that look the same become the same.
-/

namespace MailSync.Composition

/-- The characters of domain names that are joined from a letter and what follows it: for
each second part, the letters it joins, each with the character that comes of it. -/
def joined : List (Char × String) := [
  ('\u0300', "aàeèiìoòuùüǜnǹеѐиѝēḕōṑwẁâầăằêềôồơờưừyỳἀἂἁἃἐἒἑἓἠἢἡἣἰἲἱἳὀὂὁὃὐὒὑὓὠὢὡὣαὰεὲηὴιὶοὸυὺωὼ" ++
    "ϊῒϋῢ"),
  ('\u0301', "aáeéiíoóuúyýcćlĺnńrŕsśzźüǘgǵåǻæǽøǿϊΐαάεέηήιίϋΰοόυύωώгѓкќçḉēḗïḯkḱmḿõṍōṓpṕũṹwẃâấăắ" ++
    "êếôốơớưứἀἄἁἅἐἔἑἕἠἤἡἥἰἴἱἵὀὄὁὅὐὔὑὕὠὤὡὥ"),
  ('\u0302', "aâeêiîoôuûcĉgĝhĥjĵsŝwŵyŷzẑạậẹệọộ"),
  ('\u0303', "aãnñoõiĩuũvṽâẫăẵeẽêễôỗơỡưữyỹ"),
  ('\u0304', "aāeēiīoōuūüǖäǟȧǡæǣǫǭöȫõȭȯȱyȳиӣуӯgḡḷḹṛṝαᾱιῑυῡ"),
  ('\u0306', "aăeĕgğiĭoŏuŭийуўжӂаӑеӗȩḝạặαᾰιῐυῠ"),
  ('\u0307', "cċeėgġzżaȧoȯbḃdḋfḟhḣmṁnṅpṗrṙsṡśṥšṧṣṩtṫwẇxẋyẏ𐗒𐗉𐗚𐗤"),
  ('\u0308', "aäeëiïoöuüyÿιϊυϋеёіїаӓәӛжӝзӟиӥоӧөӫэӭуӱчӵыӹhḧõṏūṻwẅxẍtẗ"),
  ('\u0309', "aảâẩăẳeẻêểiỉoỏôổơởuủưửyỷ"),
  ('\u030a', "aåuůwẘyẙ"),
  ('\u030b', "oőuűуӳ"),
  ('\u030c', "cčdďeělľnňrřsštťzžaǎiǐoǒuǔüǚgǧkǩʒǯjǰhȟ"),
  ('\u030f', "aȁeȅiȉoȍrȑuȕѵѷ"),
  ('\u0311', "aȃeȇiȋoȏrȓuȗ"),
  ('\u0313', "αἀεἐηἠιἰοὀυὐωὠρῤ"),
  ('\u0314', "αἁεἑηἡιἱοὁυὑωὡρῥ"),
  ('\u031b', "oơuư"),
  ('\u0323', "bḅdḍhḥkḳlḷmṃnṇrṛsṣtṭvṿwẉzẓaạeẹiịoọơợuụưựyỵ"),
  ('\u0324', "uṳ"),
  ('\u0325', "aḁ"),
  ('\u0326', "sștț"),
  ('\u0327', "cçgģkķlļnņrŗsştţeȩdḑhḩ"),
  ('\u0328', "aąeęiįuųoǫ"),
  ('\u032d', "dḓeḙlḽnṋtṱuṷ"),
  ('\u032e', "hḫ"),
  ('\u0330', "eḛiḭuṵ"),
  ('\u0331', "bḇdḏkḵlḻnṉrṟtṯzẕhẖ"),
  ('\u0338', "←↚→↛↔↮⇐⇍⇔⇎⇒⇏∃∄∈∉∋∌∣∤∥∦∼≁≃≄≅≇≈≉=≠≡≢≍≭<≮>≯≤≰≥≱≲≴≳≵≶≸≷≹≺⊀≻⊁⊂⊄⊃⊅⊆⊈⊇⊉⊢⊬⊨⊭⊩⊮⊫⊯≼⋠≽⋡⊑⋢⊒⋣" ++
    "⊲⋪⊳⋫⊴⋬⊵⋭"),
  ('\u0342', "ἀἆἁἇἠἦἡἧἰἶἱἷὐὖὑὗὠὦὡὧαᾶηῆιῖϊῗυῦϋῧωῶ"),
  ('\u0653', "اآ"),
  ('\u0654', "اأوؤيئەۀہۂےۓ"),
  ('\u0655', "اإ"),
  ('\u093c', "नऩरऱळऴ"),
  ('\u09be', "\u09c7\u09cb"),
  ('\u09d7', "\u09c7\u09cc"),
  ('\u0b3e', "\u0b47\u0b4b"),
  ('\u0b56', "\u0b47\u0b48"),
  ('\u0b57', "\u0b47\u0b4c"),
  ('\u0bbe', "\u0bc6\u0bca\u0bc7\u0bcb"),
  ('\u0bd7', "ஒஔ\u0bc6\u0bcc"),
  ('\u0c56', "\u0c46\u0c48"),
  ('\u0cc2', "\u0cc6\u0cca"),
  ('\u0cd5', "\u0cbf\u0cc0\u0cc6\u0cc7\u0cca\u0ccb"),
  ('\u0cd6', "\u0cc6\u0cc8"),
  ('\u0d3e', "\u0d46\u0d4a\u0d47\u0d4b"),
  ('\u0d57', "\u0d46\u0d4c"),
  ('\u0dca', "\u0dd9\u0dda\u0ddc\u0ddd"),
  ('\u0dcf', "\u0dd9\u0ddc"),
  ('\u0ddf', "\u0dd9\u0dde"),
  ('\u102e', "ဥဦ"),
  ('\u1b35', "ᬅᬆᬇᬈᬉᬊᬋᬌᬍᬎᬑᬒ\u1b3a\u1b3b\u1b3c\u1b3d\u1b3e\u1b40\u1b3f\u1b41\u1b42\u1b43"),
  ('\u3099', "かがきぎくぐけげこごさざしじすずせぜそぞただちぢつづてでとどはばひびふぶへべほぼうゔゝゞカガキギクグケゲコゴサザシジスズセゼソゾタダチヂツヅテデトドハバヒビフブ" ++
    "ヘベホボウヴワヷヰヸヱヹヲヺヽヾ"),
  ('\u309a', "はぱひぴふぷへぺほぽハパヒピフプヘペホポ"),
  ('𑂺', "𑂙𑂚𑂛𑂜𑂥𑂫"),
  ('𑄧', "𑄱𑄮𑄲𑄯"),
  ('𑌾', "𑍇𑍋"),
  ('𑍗', "𑍇𑍌"),
  ('𑎸', "𑏅𑎸"),
  ('𑎻', "𑎄𑎅"),
  ('𑏂', "𑎋𑎎𑏅𑏂"),
  ('𑏉', "𑎂𑎃𑎐𑎑𑏅𑏉"),
  ('𑒰', "𑒹𑒼"),
  ('𑒺', "𑒹𑒻"),
  ('𑒽', "𑒹𑒾"),
  ('𑖯', "𑖸𑖺𑖹𑖻"),
  ('𑤰', "𑤵𑤸"),
  ('𖄞', "𖄡𖄞"),
  ('𖄟', "𖄦𖄩𖄤𖄡𖄦𖄢𖄧"),
  ('𖄠', "𖄨𖄡𖄨"),
  ('𖄩', "𖄡𖄩"),
  ('𖵧', "𖵨𖵧𖵣𖵩𖵩𖵪")]

/-- The character in front of another one in a text of pairs. -/
def partner? (c : Char) : List Char → Option Char
  | a :: b :: rest => if b = c then some a else partner? c rest
  | _ => none

/-- The character behind another one in a text of pairs. -/
def successor? (c : Char) : List Char → Option Char
  | a :: b :: rest => if a = c then some b else successor? c rest
  | _ => none

/-! ## Syllables of Hangul

A syllable is made of a leading consonant, a vowel and possibly a trailing
consonant, and is numbered in the order of these three. -/

def firstSyllable : Nat := 0xAC00
def firstLeading : Nat := 0x1100
def firstVowel : Nat := 0x1161

/-- The number before that of the first trailing consonant. -/
def beforeTrailing : Nat := 0x11A7

def isSyllable (n : Nat) : Bool := firstSyllable ≤ n && n < firstSyllable + 19 * 21 * 28

/-- The two parts of a syllable. -/
def syllableParts (n : Nat) : Char × Char :=
  let number := n - firstSyllable
  if number % 28 = 0 then
    (Char.ofNat (firstLeading + number / 588), Char.ofNat (firstVowel + number % 588 / 28))
  else (Char.ofNat (n - number % 28), Char.ofNat (beforeTrailing + number % 28))

/-- The syllable that two parts make. -/
def syllable? (a b : Nat) : Option Char :=
  if firstLeading ≤ a && a < firstLeading + 19 && firstVowel ≤ b && b < firstVowel + 21 then
    some (Char.ofNat (firstSyllable + ((a - firstLeading) * 21 + (b - firstVowel)) * 28))
  else if isSyllable a && (a - firstSyllable) % 28 = 0 &&
      beforeTrailing < b && b < beforeTrailing + 28 then
    some (Char.ofNat (a + (b - beforeTrailing)))
  else none

/-! ## Taking apart and joining -/

/-- The two parts of a character that is joined. -/
def parts? (c : Char) : Option (Char × Char) :=
  if isSyllable c.toNat then some (syllableParts c.toNat)
  else joined.findSome? fun (b, pairs) => (partner? c pairs.toList).map fun a => (a, b)

/-- The character that two characters are joined to. -/
def join? (a b : Char) : Option Char :=
  (syllable? a.toNat b.toNat) <|> (joined.lookup b >>= fun pairs => successor? a pairs.toList)

/-- Takes a character apart, at most so many times. -/
def apart : Nat → Char → List Char
  | 0, c => [c]
  | times + 1, c =>
    match parts? c with
    | some (a, b) => apart times a ++ [b]
    | none => [c]

/-- Puts a character in front of a text, behind the marks there with a lower rank. -/
def place (c : Char) : List Char → List Char
  | [] => [c]
  | d :: rest =>
    if Mark.rank d ≠ 0 && Mark.rank d < Mark.rank c then d :: place c rest else c :: d :: rest

/-- Joins a letter and the marks on it, which could not be joined, with what follows. -/
def joinFrom (letter : Char) (marks : List Char) : List Char → List Char
  | [] => letter :: marks
  | c :: rest =>
    let isReached := marks.getLast?.all fun m => Mark.rank m < Mark.rank c
    match if isReached then join? letter c else none with
    | some k => joinFrom k marks rest
    | none =>
      if Mark.rank c = 0 then letter :: marks ++ joinFrom c [] rest
      else joinFrom letter (marks ++ [c]) rest

/-- The text with all that can be joined joined. No letter of these has more than two marks. -/
def compose (cs : List Char) : List Char :=
  match (cs.flatMap (apart 2)).foldr place [] with
  | [] => []
  | c :: rest => joinFrom c [] rest

end MailSync.Composition
