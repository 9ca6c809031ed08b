import Restyle.Text.Mark

/-!
# Composed texts

Some characters stand for another character with a mark: an accented letter for a letter with an
accent, a syllable of Hangul for its sounds. A text may be written with such characters or with
their parts. It is composed when all is written as one character that can be, marks are in the
order of their classes, and no character stands in it of which another one is the proper form.
Here a text is the list of its code points, of which not all need to be characters.
-/
namespace Restyle.Text

/-- Marks, each with the characters before it that it makes one character with, and those
characters. -/
def compositionRows : List (Nat × String × String) :=
  [(0x300, "AEIOUaeiouÜüNnЕИеиĒēŌōWwÂâĂăÊêÔôƠơƯư", "ÀÈÌÒÙàèìòùǛǜǸǹЀЍѐѝḔḕṐṑẀẁẦầẰằỀềỒồỜờỪừ"),
   (0x300, "YyἀἁἈἉἐἑἘἙἠἡἨἩἰἱἸἹὀὁὈὉὐὑὙὠὡὨὩαεηιουω", "ỲỳἂἃἊἋἒἓἚἛἢἣἪἫἲἳἺἻὂὃὊὋὒὓὛὢὣὪὫὰὲὴὶὸὺὼ"),
   (0x300, "ΑΕΗ᾿ϊΙ῾ϋΥ¨ΟΩ", "ᾺῈῊ῍ῒῚ῝ῢῪ῭ῸῺ"),
   (0x301, "AEIOUYaeiouyCcLlNnRrSsZzÜüGgÅåÆæØø¨Α", "ÁÉÍÓÚÝáéíóúýĆćĹĺŃńŔŕŚśŹźǗǘǴǵǺǻǼǽǾǿ΅Ά"),
   (0x301, "ΕΗΙΟΥΩϊαεηιϋουωϒГКгкÇçĒēÏïKkMmÕõŌōPp", "ΈΉΊΌΎΏΐάέήίΰόύώϓЃЌѓќḈḉḖḗḮḯḰḱḾḿṌṍṒṓṔṕ"),
   (0x301, "ŨũWwÂâĂăÊêÔôƠơƯưἀἁἈἉἐἑἘἙἠἡἨἩἰἱἸἹὀὁὈὉ", "ṸṹẂẃẤấẮắẾếỐốỚớỨứἄἅἌἍἔἕἜἝἤἥἬἭἴἵἼἽὄὅὌὍ"),
   (0x301, "ὐὑὙὠὡὨὩ᾿῾", "ὔὕὝὤὥὬὭ῎῞"),
   (0x302, "AEIOUaeiouCcGgHhJjSsWwYyZzẠạẸẹỌọ", "ÂÊÎÔÛâêîôûĈĉĜĝĤĥĴĵŜŝŴŵŶŷẐẑẬậỆệỘộ"),
   (0x303, "ANOanoIiUuVvÂâĂăEeÊêÔôƠơƯưYy", "ÃÑÕãñõĨĩŨũṼṽẪẫẴẵẼẽỄễỖỗỠỡỮữỸỹ"),
   (0x304, "AaEeIiOoUuÜüÄäȦȧÆæǪǫÖöÕõȮȯYyИиУуGgḶḷ", "ĀāĒēĪīŌōŪūǕǖǞǟǠǡǢǣǬǭȪȫȬȭȰȱȲȳӢӣӮӯḠḡḸḹ"),
   (0x304, "ṚṛαΑιΙυΥ", "ṜṝᾱᾹῑῙῡῩ"),
   (0x306, "AaEeGgIiOoUuУИиуЖжАаЕеȨȩẠạαΑιΙυΥ", "ĂăĔĕĞğĬĭŎŏŬŭЎЙйўӁӂӐӑӖӗḜḝẶặᾰᾸῐῘῠῨ"),
   (0x307, "CcEeGgIZzAaOoBbDdFfHhMmNnPpRrSsŚśŠšṢ", "ĊċĖėĠġİŻżȦȧȮȯḂḃḊḋḞḟḢḣṀṁṄṅṖṗṘṙṠṡṤṥṦṧṨ"),
   (0x307, "ṣTtWwXxYyſ", "ṩṪṫẆẇẊẋẎẏẛ"),
   (0x308, "AEIOUaeiouyYΙΥιυϒЕІеіАаӘәЖжЗзИиОоӨөЭ", "ÄËÏÖÜäëïöüÿŸΪΫϊϋϔЁЇёїӒӓӚӛӜӝӞӟӤӥӦӧӪӫӬ"),
   (0x308, "эУуЧчЫыHhÕõŪūWwXxt", "ӭӰӱӴӵӸӹḦḧṎṏṺṻẄẅẌẍẗ"),
   (0x309, "AaÂâĂăEeÊêIiOoÔôƠơUuƯưYy", "ẢảẨẩẲẳẺẻỂểỈỉỎỏỔổỞởỦủỬửỶỷ"), (0x30A, "AaUuwy", "ÅåŮůẘẙ"),
   (0x30B, "OoUuУу", "ŐőŰűӲӳ"),
   (0x30C, "CcDdEeLlNnRrSsTtZzAaIiOoUuÜüGgKkƷʒjH", "ČčĎďĚěĽľŇňŘřŠšŤťŽžǍǎǏǐǑǒǓǔǙǚǦǧǨǩǮǯǰȞ"),
   (0x30C, "h", "ȟ"), (0x30F, "AaEeIiOoRrUuѴѵ", "ȀȁȄȅȈȉȌȍȐȑȔȕѶѷ"),
   (0x311, "AaEeIiOoRrUu", "ȂȃȆȇȊȋȎȏȒȓȖȗ"), (0x313, "αΑεΕηΗιΙοΟυωΩρ", "ἀἈἐἘἠἨἰἸὀὈὐὠὨῤ"),
   (0x314, "αΑεΕηΗιΙοΟυΥωΩρΡ", "ἁἉἑἙἡἩἱἹὁὉὑὙὡὩῥῬ"), (0x31B, "OoUu", "ƠơƯư"),
   (0x323, "BbDdHhKkLlMmNnRrSsTtVvWwZzAaEeIiOoƠơ", "ḄḅḌḍḤḥḲḳḶḷṂṃṆṇṚṛṢṣṬṭṾṿẈẉẒẓẠạẸẹỊịỌọỢợ"),
   (0x323, "UuƯưYy", "ỤụỰựỴỵ"), (0x324, "Uu", "Ṳṳ"), (0x325, "Aa", "Ḁḁ"), (0x326, "SsTt", "ȘșȚț"),
   (0x327, "CcGgKkLlNnRrSsTtEeDdHh", "ÇçĢģĶķĻļŅņŖŗŞşŢţȨȩḐḑḨḩ"),
   (0x328, "AaEeIiUuOo", "ĄąĘęĮįŲųǪǫ"), (0x32D, "DdEeLlNnTtUu", "ḒḓḘḙḼḽṊṋṰṱṶṷ"),
   (0x32E, "Hh", "Ḫḫ"), (0x330, "EeIiUu", "ḚḛḬḭṴṵ"),
   (0x331, "BbDdKkLlNnRrTtZzh", "ḆḇḎḏḴḵḺḻṈṉṞṟṮṯẔẕẖ"),
   (0x338, "←→↔⇐⇔⇒∃∈∋∣∥∼≃≅≈=≡≍<>≤≥≲≳≶≷≺≻⊂⊃⊆⊇⊢⊨⊩⊫", "↚↛↮⇍⇎⇏∄∉∌∤∦≁≄≇≉≠≢≭≮≯≰≱≴≵≸≹⊀⊁⊄⊅⊈⊉⊬⊭⊮⊯"),
   (0x338, "≼≽⊑⊒⊲⊳⊴⊵", "⋠⋡⋢⋣⋪⋫⋬⋭"),
   (0x342, "ἀἁἈἉἠἡἨἩἰἱἸἹὐὑὙὠὡὨὩα¨η᾿ιϊ῾υϋω", "ἆἇἎἏἦἧἮἯἶἷἾἿὖὗὟὦὧὮὯᾶ῁ῆ῏ῖῗ῟ῦῧῶ"),
   (0x345, "ἀἁἂἃἄἅἆἇἈἉἊἋἌἍἎἏἠἡἢἣἤἥἦἧἨἩἪἫἬἭἮἯὠὡὢὣ", "ᾀᾁᾂᾃᾄᾅᾆᾇᾈᾉᾊᾋᾌᾍᾎᾏᾐᾑᾒᾓᾔᾕᾖᾗᾘᾙᾚᾛᾜᾝᾞᾟᾠᾡᾢᾣ"),
   (0x345, "ὤὥὦὧὨὩὪὫὬὭὮὯὰαάᾶΑὴηήῆΗὼωώῶΩ", "ᾤᾥᾦᾧᾨᾩᾪᾫᾬᾭᾮᾯᾲᾳᾴᾷᾼῂῃῄῇῌῲῳῴῷῼ"), (0x653, "ا", "آ"),
   (0x654, "اويەہے", "أؤئۀۂۓ"), (0x655, "ا", "إ"), (0x93C, "नरळ", "ऩऱऴ"), (0x9BE, "ে", "ো"),
   (0x9D7, "ে", "ৌ"), (0xB3E, "େ", "ୋ"), (0xB56, "େ", "ୈ"), (0xB57, "େ", "ୌ"),
   (0xBBE, "ெே", "ொோ"), (0xBD7, "ஒெ", "ஔௌ"), (0xC56, "ె", "ై"), (0xCC2, "ೆ", "ೊ"),
   (0xCD5, "ಿೆೊ", "ೀೇೋ"), (0xCD6, "ೆ", "ೈ"), (0xD3E, "െേ", "ൊോ"), (0xD57, "െ", "ൌ"),
   (0xDCA, "ෙො", "ේෝ"), (0xDCF, "ෙ", "ො"), (0xDDF, "ෙ", "ෞ"), (0x102E, "ဥ", "ဦ"),
   (0x1B35, "ᬅᬇᬉᬋᬍᬑᬺᬼᬾᬿᭂ", "ᬆᬈᬊᬌᬎᬒᬻᬽᭀᭁᭃ"),
   (0x3099, "かきくけこさしすせそたちつてとはひふへほうゝカキクケコサシスセソタチツテ", "がぎぐげござじずぜぞだぢづでどばびぶべぼゔゞガギグゲゴザジズゼゾダヂヅデ"),
   (0x3099, "トハヒフヘホウワヰヱヲヽ", "ドバビブベボヴヷヸヹヺヾ"), (0x309A, "はひふへほハヒフヘホ", "ぱぴぷぺぽパピプペポ"),
   (0x110BA, "𑂙𑂛𑂥", "𑂚𑂜𑂫"), (0x11127, "𑄱𑄲", "𑄮𑄯"), (0x1133E, "𑍇", "𑍋"), (0x11357, "𑍇", "𑍌"),
   (0x114B0, "𑒹", "𑒼"), (0x114BA, "𑒹", "𑒻"), (0x114BD, "𑒹", "𑒾"), (0x115AF, "𑖸𑖹", "𑖺𑖻"),
   (0x11930, "𑤵", "𑤸")]

/-- The code points of two characters and that of the one which stands for both. -/
def compositions : List ((Nat × Nat) × Nat) :=
  compositionRows.flatMap fun row =>
    (row.2.1.toList.zip row.2.2.toList).map fun entry =>
      ((entry.1.toNat, row.1), entry.2.toNat)

/-- The first syllable of Hangul. The syllables are in the order of their first sounds, then of
their vowels, then of their last sounds. -/
def firstSyllable : Nat := 0xAC00

/-- The first of the first sounds. -/
def firstLead : Nat := 0x1100

/-- How many first sounds there are. -/
def leads : Nat := 19

/-- The first vowel. -/
def firstVowel : Nat := 0x1161

/-- How many vowels there are. -/
def vowels : Nat := 21

/-- The code point before the first of the last sounds. -/
def beforeTails : Nat := 0x11A7

/-- How many last sounds there are, none counted as one. -/
def tails : Nat := 28

/-- Whether a code point is that of a syllable of Hangul. -/
def isSyllable (code : Nat) : Bool :=
  firstSyllable ≤ code && code < firstSyllable + leads * vowels * tails

/-- The two parts of a character that stands for two others. -/
def parts? (code : Nat) : Option (Nat × Nat) :=
  if isSyllable code then
    let place := code - firstSyllable
    if place % tails = 0 then
      some (firstLead + place / (vowels * tails), firstVowel + place / tails % vowels)
    else some (code - place % tails, beforeTails + place % tails)
  else (compositions.find? fun entry => entry.2 = code).map Prod.fst

/-- The character that stands for two others. -/
def together? (first second : Nat) : Option Nat :=
  let isLead := firstLead ≤ first && first < firstLead + leads
  let isVowel := firstVowel ≤ second && second < firstVowel + vowels
  let isTail := beforeTails < second && second < beforeTails + tails
  if isLead && isVowel then
    some (firstSyllable + ((first - firstLead) * vowels + (second - firstVowel)) * tails)
  else if isSyllable first && (first - firstSyllable) % tails = 0 && isTail then
    some (first + (second - beforeTails))
  else compositions.lookup (first, second)

/-- A character in its parts, taken apart so many times. -/
def takeApart (times code : Nat) : List Nat :=
  match times with
  | 0 => [code]
  | times + 1 =>
    match parts? code with
    | none => [code]
    | some (first, second) => takeApart times first ++ [second]

/-- How often a character can be taken apart. -/
def mostParts : Nat := 4

/-- A character in its last parts. -/
def apart (code : Nat) : List Nat := takeApart mostParts code

/-- Put a code point at the end of a text, of which the last one comes first: a mark goes before
those of higher classes. -/
def settle (code : Nat) : List Nat → List Nat
  | last :: earlier =>
    if markClass code != 0 && markClass code < markClass last then last :: settle code earlier
    else code :: last :: earlier
  | [] => [code]

/-- A text with its marks in the order of their classes. -/
def ordered (codes : List Nat) : List Nat :=
  (codes.foldl (fun settled code => settle code settled) []).reverse

/-- Put a text together behind a character and the marks that stay apart from it, last one
first. A mark is joined unless one of its class or of a higher one stands before it. -/
def joinAfter (start : Nat) (marks : List Nat) : List Nat → List Nat
  | [] => start :: marks.reverse
  | code :: rest =>
    let isFree : Bool := match marks with
      | [] => true
      | last :: _ => markClass last < markClass code
    match if isFree then together? start code else none with
    | some whole => joinAfter whole marks rest
    | none =>
      if markClass code = 0 then start :: marks.reverse ++ joinAfter code [] rest
      else joinAfter start (code :: marks) rest

/-- A text in its last parts put together again. -/
def putTogether : List Nat → List Nat
  | [] => []
  | code :: rest => if markClass code = 0 then joinAfter code [] rest else code :: putTogether rest

/-- The composed form of a text without characters of which others are the proper forms. -/
def compose (codes : List Nat) : List Nat := putTogether (ordered (codes.flatMap apart))

/-- The code points of characters of which others are the proper forms. -/
def improperRanges : Ranges :=
  [(0x340, 0x341), (0x343, 0x344), (0x374, 0x374), (0x37E, 0x37E), (0x387, 0x387), (0x958, 0x95F),
   (0x9DC, 0x9DD), (0x9DF, 0x9DF), (0xA33, 0xA33), (0xA36, 0xA36), (0xA59, 0xA5B), (0xA5E, 0xA5E),
   (0xB5C, 0xB5D), (0xF43, 0xF43), (0xF4D, 0xF4D), (0xF52, 0xF52), (0xF57, 0xF57), (0xF5C, 0xF5C),
   (0xF69, 0xF69), (0xF73, 0xF73), (0xF75, 0xF76), (0xF78, 0xF78), (0xF81, 0xF81), (0xF93, 0xF93),
   (0xF9D, 0xF9D), (0xFA2, 0xFA2), (0xFA7, 0xFA7), (0xFAC, 0xFAC), (0xFB9, 0xFB9),
   (0x1F71, 0x1F71), (0x1F73, 0x1F73), (0x1F75, 0x1F75), (0x1F77, 0x1F77), (0x1F79, 0x1F79),
   (0x1F7B, 0x1F7B), (0x1F7D, 0x1F7D), (0x1FBB, 0x1FBB), (0x1FBE, 0x1FBE), (0x1FC9, 0x1FC9),
   (0x1FCB, 0x1FCB), (0x1FD3, 0x1FD3), (0x1FDB, 0x1FDB), (0x1FE3, 0x1FE3), (0x1FEB, 0x1FEB),
   (0x1FEE, 0x1FEF), (0x1FF9, 0x1FF9), (0x1FFB, 0x1FFB), (0x1FFD, 0x1FFD), (0x2000, 0x2001),
   (0x2126, 0x2126), (0x212A, 0x212B), (0x2329, 0x232A), (0x2ADC, 0x2ADC), (0xF900, 0xFA0D),
   (0xFA10, 0xFA10), (0xFA12, 0xFA12), (0xFA15, 0xFA1E), (0xFA20, 0xFA20), (0xFA22, 0xFA22),
   (0xFA25, 0xFA26), (0xFA2A, 0xFA6D), (0xFA70, 0xFAD9), (0xFB1D, 0xFB1D), (0xFB1F, 0xFB1F),
   (0xFB2A, 0xFB36), (0xFB38, 0xFB3C), (0xFB3E, 0xFB3E), (0xFB40, 0xFB41), (0xFB43, 0xFB44),
   (0xFB46, 0xFB4E), (0x1D15E, 0x1D164), (0x1D1BB, 0x1D1C0), (0x2F800, 0x2FA1D)]

/-- Whether a text is composed. -/
def isComposed (codes : List Nat) : Bool :=
  !codes.any improperRanges.holds && compose codes == codes

end Restyle.Text
