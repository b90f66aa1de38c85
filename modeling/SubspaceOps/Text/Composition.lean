import SubspaceOps.Text.Hangul

/-!
# Composites of two characters

The pairs of characters for which the Unicode standard, as of version 14.0, has a composite that
normal forms use. Letters of Hangul compose by arithmetic, others by a table that is ordered by the
second character of the pair.
-/
namespace SubspaceOps.Text

/-- A second character, with first characters and the composites of both at equal places. -/
abbrev CompositionRow := Char × String × String

def compositionRows : List CompositionRow :=
  [('\u0300', "AEIOUaeiouÜüNnЕИеиĒēŌōWwÂâĂăÊêÔôƠơƯưYy", "ÀÈÌÒÙàèìòùǛǜǸǹЀЍѐѝḔḕṐṑẀẁẦầẰằỀềỒồỜờỪừỲỳ"),
    ('\u0300', "ἀἁἈἉἐἑἘἙἠἡἨἩἰἱἸἹὀὁὈὉὐὑὙὠὡὨὩαεηιουωΑΕΗϊ", "ἂἃἊἋἒἓἚἛἢἣἪἫἲἳἺἻὂὃὊὋὒὓὛὢὣὪὫὰὲὴὶὸὺὼᾺῈῊῒ"),
    ('\u0300', "ΙϋΥΟΩ", "ῚῢῪῸῺ"),
    ('\u0301', "AEIOUYaeiouyCcLlNnRrSsZzÜüGgÅåÆæØøΑΕΗΙ", "ÁÉÍÓÚÝáéíóúýĆćĹĺŃńŔŕŚśŹźǗǘǴǵǺǻǼǽǾǿΆΈΉΊ"),
    ('\u0301', "ΟΥΩϊαεηιϋουωϒГКгкÇçĒēÏïKkMmÕõŌōPpŨũWwÂ", "ΌΎΏΐάέήίΰόύώϓЃЌѓќḈḉḖḗḮḯḰḱḾḿṌṍṒṓṔṕṸṹẂẃẤ"),
    ('\u0301', "âĂăÊêÔôƠơƯưἀἁἈἉἐἑἘἙἠἡἨἩἰἱἸἹὀὁὈὉὐὑὙὠὡὨὩ", "ấẮắẾếỐốỚớỨứἄἅἌἍἔἕἜἝἤἥἬἭἴἵἼἽὄὅὌὍὔὕὝὤὥὬὭ"),
    ('\u0302', "AEIOUaeiouCcGgHhJjSsWwYyZzẠạẸẹỌọ", "ÂÊÎÔÛâêîôûĈĉĜĝĤĥĴĵŜŝŴŵŶŷẐẑẬậỆệỘộ"),
    ('\u0303', "ANOanoIiUuVvÂâĂăEeÊêÔôƠơƯưYy", "ÃÑÕãñõĨĩŨũṼṽẪẫẴẵẼẽỄễỖỗỠỡỮữỸỹ"),
    ('\u0304', "AaEeIiOoUuÜüÄäȦȧÆæǪǫÖöÕõȮȯYyИиУуGgḶḷṚṛ", "ĀāĒēĪīŌōŪūǕǖǞǟǠǡǢǣǬǭȪȫȬȭȰȱȲȳӢӣӮӯḠḡḸḹṜṝ"),
    ('\u0304', "αΑιΙυΥ", "ᾱᾹῑῙῡῩ"),
    ('\u0306', "AaEeGgIiOoUuУИиуЖжАаЕеȨȩẠạαΑιΙυΥ", "ĂăĔĕĞğĬĭŎŏŬŭЎЙйўӁӂӐӑӖӗḜḝẶặᾰᾸῐῘῠῨ"),
    ('\u0307', "CcEeGgIZzAaOoBbDdFfHhMmNnPpRrSsŚśŠšṢṣT", "ĊċĖėĠġİŻżȦȧȮȯḂḃḊḋḞḟḢḣṀṁṄṅṖṗṘṙṠṡṤṥṦṧṨṩṪ"),
    ('\u0307', "tWwXxYyſ", "ṫẆẇẊẋẎẏẛ"),
    ('\u0308', "AEIOUaeiouyYΙΥιυϒЕІеіАаӘәЖжЗзИиОоӨөЭэУ", "ÄËÏÖÜäëïöüÿŸΪΫϊϋϔЁЇёїӒӓӚӛӜӝӞӟӤӥӦӧӪӫӬӭӰ"),
    ('\u0308', "уЧчЫыHhÕõŪūWwXxt", "ӱӴӵӸӹḦḧṎṏṺṻẄẅẌẍẗ"),
    ('\u0309', "AaÂâĂăEeÊêIiOoÔôƠơUuƯưYy", "ẢảẨẩẲẳẺẻỂểỈỉỎỏỔổỞởỦủỬửỶỷ"),
    ('\u030a', "AaUuwy", "ÅåŮůẘẙ"), ('\u030b', "OoUuУу", "ŐőŰűӲӳ"),
    ('\u030c', "CcDdEeLlNnRrSsTtZzAaIiOoUuÜüGgKkƷʒjHh", "ČčĎďĚěĽľŇňŘřŠšŤťŽžǍǎǏǐǑǒǓǔǙǚǦǧǨǩǮǯǰȞȟ"),
    ('\u030f', "AaEeIiOoRrUuѴѵ", "ȀȁȄȅȈȉȌȍȐȑȔȕѶѷ"), ('\u0311', "AaEeIiOoRrUu", "ȂȃȆȇȊȋȎȏȒȓȖȗ"),
    ('\u0313', "αΑεΕηΗιΙοΟυωΩρ", "ἀἈἐἘἠἨἰἸὀὈὐὠὨῤ"),
    ('\u0314', "αΑεΕηΗιΙοΟυΥωΩρΡ", "ἁἉἑἙἡἩἱἹὁὉὑὙὡὩῥῬ"), ('\u031b', "OoUu", "ƠơƯư"),
    ('\u0323', "BbDdHhKkLlMmNnRrSsTtVvWwZzAaEeIiOoƠơUu", "ḄḅḌḍḤḥḲḳḶḷṂṃṆṇṚṛṢṣṬṭṾṿẈẉẒẓẠạẸẹỊịỌọỢợỤụ"),
    ('\u0323', "ƯưYy", "ỰựỴỵ"), ('\u0324', "Uu", "Ṳṳ"), ('\u0325', "Aa", "Ḁḁ"),
    ('\u0326', "SsTt", "ȘșȚț"), ('\u0327', "CcGgKkLlNnRrSsTtEeDdHh", "ÇçĢģĶķĻļŅņŖŗŞşŢţȨȩḐḑḨḩ"),
    ('\u0328', "AaEeIiUuOo", "ĄąĘęĮįŲųǪǫ"), ('\u032d', "DdEeLlNnTtUu", "ḒḓḘḙḼḽṊṋṰṱṶṷ"),
    ('\u032e', "Hh", "Ḫḫ"), ('\u0330', "EeIiUu", "ḚḛḬḭṴṵ"),
    ('\u0331', "BbDdKkLlNnRrTtZzh", "ḆḇḎḏḴḵḺḻṈṉṞṟṮṯẔẕẖ"),
    ('\u0342', "ἀἁἈἉἠἡἨἩἰἱἸἹὐὑὙὠὡὨὩαηιϊυϋω", "ἆἇἎἏἦἧἮἯἶἷἾἿὖὗὟὦὧὮὯᾶῆῖῗῦῧῶ"),
    ('\u0345', "ἀἁἂἃἄἅἆἇἈἉἊἋἌἍἎἏἠἡἢἣἤἥἦἧἨἩἪἫἬἭἮἯὠὡὢὣὤὥ", "ᾀᾁᾂᾃᾄᾅᾆᾇᾈᾉᾊᾋᾌᾍᾎᾏᾐᾑᾒᾓᾔᾕᾖᾗᾘᾙᾚᾛᾜᾝᾞᾟᾠᾡᾢᾣᾤᾥ"),
    ('\u0345', "ὦὧὨὩὪὫὬὭὮὯὰαάᾶΑὴηήῆΗὼωώῶΩ", "ᾦᾧᾨᾩᾪᾫᾬᾭᾮᾯᾲᾳᾴᾷᾼῂῃῄῇῌῲῳῴῷῼ"),
    ('\u0653', "\u0627", "\u0622"),
    ('\u0654', "\u0627\u0648\u064a\u06d5\u06c1\u06d2", "\u0623\u0624\u0626\u06c0\u06c2\u06d3"),
    ('\u0655', "\u0627", "\u0625"), ('\u093c', "नरळ", "ऩऱऴ"), ('\u09be', "\u09c7", "\u09cb"),
    ('\u09d7', "\u09c7", "\u09cc"), ('\u0b3e', "\u0b47", "\u0b4b"), ('\u0b56', "\u0b47", "\u0b48"),
    ('\u0b57', "\u0b47", "\u0b4c"), ('\u0bbe', "\u0bc6\u0bc7", "\u0bca\u0bcb"),
    ('\u0bd7', "ஒ\u0bc6", "ஔ\u0bcc"), ('\u0c56', "\u0c46", "\u0c48"),
    ('\u0cc2', "\u0cc6", "\u0cca"), ('\u0cd5', "\u0cbf\u0cc6\u0cca", "\u0cc0\u0cc7\u0ccb"),
    ('\u0cd6', "\u0cc6", "\u0cc8"), ('\u0d3e', "\u0d46\u0d47", "\u0d4a\u0d4b"),
    ('\u0d57', "\u0d46", "\u0d4c"), ('\u0dca', "\u0dd9\u0ddc", "\u0dda\u0ddd"),
    ('\u0dcf', "\u0dd9", "\u0ddc"), ('\u0ddf', "\u0dd9", "\u0dde"), ('\u102e', "ဥ", "ဦ"),
    ('\u1b35', "ᬅᬇᬉᬋᬍᬑ\u1b3a\u1b3c\u1b3e\u1b3f\u1b42", "ᬆᬈᬊᬌᬎᬒ\u1b3b\u1b3d\u1b40\u1b41\u1b43"),
    ('\u3099', "かきくけこさしすせそたちつてとはひふへほう\u309dカキクケコサシスセソタ", "がぎぐげござじずぜぞだぢづでどばびぶべぼゔ\u309eガギグゲゴザジズゼゾダ"),
    ('\u3099', "チツテトハヒフヘホウワヰヱヲ\u30fd", "ヂヅデドバビブベボヴヷヸヹヺ\u30fe"),
    ('\u309a', "はひふへほハヒフヘホ", "ぱぴぷぺぽパピプペポ"), ('𑂺', "𑂙𑂛𑂥", "𑂚𑂜𑂫"), ('𑄧', "𑄱𑄲", "𑄮𑄯"), ('𑌾', "𑍇", "𑍋"),
    ('𑍗', "𑍇", "𑍌"), ('𑒰', "𑒹", "𑒼"), ('𑒺', "𑒹", "𑒻"), ('𑒽', "𑒹", "𑒾"), ('𑖯', "𑖸𑖹", "𑖺𑖻"),
    ('𑤰', "𑤵", "𑤸")]

/-- The composite of a character with the given first one. -/
def CompositionRow.composite? (row : CompositionRow) (a : Char) : Option Char :=
  (row.2.1.toList.zip row.2.2.toList).lookup a

/-- The composite of two characters. -/
def composite? (a b : Char) : Option Char :=
  match Hangul.join? a.toNat b.toNat with
  | some n => some (Char.ofNat n)
  | none => (compositionRows.filter (·.1 = b)).findSome? (·.composite? a)

theorem le_of_mem_compositionRows : ∀ row ∈ compositionRows, 0x300 ≤ row.1.toNat := by
  decide +kernel

theorem composite?_of_ascii (a : Char) {b : Char} (h : b.toNat < 0x80) : composite? a b = none := by
  have hj : Hangul.join? a.toNat b.toNat = none := by
    rw [Hangul.join?, if_neg, if_neg]
    · simp only [Hangul.tailBase]
      omega
    · simp only [Hangul.vowelBase]
      omega
  have hr : compositionRows.filter (·.1 = b) = [] := by
    rw [List.filter_eq_nil_iff]
    intro row hrow
    have := le_of_mem_compositionRows row hrow
    simp only [decide_eq_true_eq]
    rintro rfl
    omega
  simp [composite?, hj, hr]

end SubspaceOps.Text
