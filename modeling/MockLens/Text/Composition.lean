/-
**Composition: letters with their marks as one character.**

A letter with marks can be written as one character or as several, and the marks in different
orders.  The composed form is one of these ways: the marks stand in the order of their classes, and
a letter and a mark that one character stands for are written as that character.

Main definitions:

* `Text.combiningClass` — where a mark attaches, which decides the order of marks;
* `Text.composite?`, `Text.parts?` — the character for two, and the two parts of a character;
* `Text.ordered` — a text with its marks in order;
* `Text.composed` — the composed form of a text.
-/
import MockLens.Text.Category

set_option autoImplicit false

namespace MockLens

namespace Text

/-! ### The order of marks -/

/-- The classes of the marks, in runs that do not count other characters. -/
def classRuns : List (Nat × Nat) :=
  [(0x300, 230), (0x315, 232), (0x316, 220), (0x31A, 232), (0x31B, 216), (0x31C, 220), (0x321, 202),
   (0x323, 220), (0x327, 202), (0x329, 220), (0x334, 1), (0x339, 220), (0x33D, 230), (0x345, 240),
   (0x346, 230), (0x347, 220), (0x34A, 230), (0x34D, 220), (0x34F, 0), (0x350, 230), (0x353, 220),
   (0x357, 230), (0x358, 232), (0x359, 220), (0x35B, 230), (0x35C, 233), (0x35D, 234), (0x35F, 233),
   (0x360, 234), (0x362, 233), (0x363, 230), (0x488, 0), (0x591, 220), (0x592, 230), (0x596, 220),
   (0x597, 230), (0x59A, 222), (0x59B, 220), (0x59C, 230), (0x5A2, 220), (0x5A8, 230), (0x5AA, 220),
   (0x5AB, 230), (0x5AD, 222), (0x5AE, 228), (0x5AF, 230), (0x5B0, 10), (0x5B1, 11), (0x5B2, 12),
   (0x5B3, 13), (0x5B4, 14), (0x5B5, 15), (0x5B6, 16), (0x5B7, 17), (0x5B8, 18), (0x5B9, 19),
   (0x5BB, 20), (0x5BC, 21), (0x5BD, 22), (0x5BF, 23), (0x5C1, 24), (0x5C2, 25), (0x5C4, 230),
   (0x5C5, 220), (0x5C7, 18), (0x610, 230), (0x618, 30), (0x619, 31), (0x61A, 32), (0x64B, 27),
   (0x64C, 28), (0x64D, 29), (0x64E, 30), (0x64F, 31), (0x650, 32), (0x651, 33), (0x652, 34),
   (0x653, 230), (0x655, 220), (0x657, 230), (0x65C, 220), (0x65D, 230), (0x65F, 220), (0x670, 35),
   (0x6D6, 230), (0x6E3, 220), (0x6E4, 230), (0x6EA, 220), (0x6EB, 230), (0x6ED, 220), (0x711, 36),
   (0x730, 230), (0x731, 220), (0x732, 230), (0x734, 220), (0x735, 230), (0x737, 220), (0x73A, 230),
   (0x73B, 220), (0x73D, 230), (0x73E, 220), (0x73F, 230), (0x742, 220), (0x743, 230), (0x744, 220),
   (0x745, 230), (0x746, 220), (0x747, 230), (0x748, 220), (0x749, 230), (0x7A6, 0), (0x7EB, 230),
   (0x7F2, 220), (0x7F3, 230), (0x7FD, 220), (0x816, 230), (0x859, 220), (0x897, 230), (0x899, 220),
   (0x89C, 230), (0x8CF, 220), (0x8D4, 230), (0x8E3, 220), (0x8E4, 230), (0x8E6, 220), (0x8E7, 230),
   (0x8E9, 220), (0x8EA, 230), (0x8ED, 220), (0x8F0, 27), (0x8F1, 28), (0x8F2, 29), (0x8F3, 230),
   (0x8F6, 220), (0x8F7, 230), (0x8F9, 220), (0x8FB, 230), (0x900, 0), (0x93C, 7), (0x93E, 0),
   (0x94D, 9), (0x94E, 0), (0x951, 230), (0x952, 220), (0x953, 230), (0x955, 0), (0x9BC, 7),
   (0x9BE, 0), (0x9CD, 9), (0x9D7, 0), (0x9FE, 230), (0xA01, 0), (0xA3C, 7), (0xA3E, 0), (0xA4D, 9),
   (0xA51, 0), (0xABC, 7), (0xABE, 0), (0xACD, 9), (0xAE2, 0), (0xB3C, 7), (0xB3E, 0), (0xB4D, 9),
   (0xB55, 0), (0xBCD, 9), (0xBD7, 0), (0xC3C, 7), (0xC3E, 0), (0xC4D, 9), (0xC55, 84), (0xC56, 91),
   (0xC62, 0), (0xCBC, 7), (0xCBE, 0), (0xCCD, 9), (0xCD5, 0), (0xD3B, 9), (0xD3E, 0), (0xD4D, 9),
   (0xD57, 0), (0xDCA, 9), (0xDCF, 0), (0xE38, 103), (0xE3A, 9), (0xE47, 0), (0xE48, 107),
   (0xE4C, 0), (0xEB8, 118), (0xEBA, 9), (0xEBB, 0), (0xEC8, 122), (0xECC, 0), (0xF18, 220),
   (0xF39, 216), (0xF3E, 0), (0xF71, 129), (0xF72, 130), (0xF73, 0), (0xF74, 132), (0xF75, 0),
   (0xF7A, 130), (0xF7E, 0), (0xF80, 130), (0xF81, 0), (0xF82, 230), (0xF84, 9), (0xF86, 230),
   (0xF8D, 0), (0xFC6, 220), (0x102B, 0), (0x1037, 7), (0x1038, 0), (0x1039, 9), (0x103B, 0),
   (0x108D, 220), (0x108F, 0), (0x135D, 230), (0x1712, 0), (0x1714, 9), (0x1732, 0), (0x1734, 9),
   (0x1752, 0), (0x17D2, 9), (0x17D3, 0), (0x17DD, 230), (0x180B, 0), (0x18A9, 228), (0x1920, 0),
   (0x1939, 222), (0x193A, 230), (0x193B, 220), (0x1A17, 230), (0x1A18, 220), (0x1A19, 0),
   (0x1A60, 9), (0x1A61, 0), (0x1A75, 230), (0x1A7F, 220), (0x1AB0, 230), (0x1AB5, 220),
   (0x1ABB, 230), (0x1ABD, 220), (0x1ABE, 0), (0x1ABF, 220), (0x1AC1, 230), (0x1AC3, 220),
   (0x1AC5, 230), (0x1ACA, 220), (0x1ACB, 230), (0x1ADD, 220), (0x1AE0, 230), (0x1AE6, 220),
   (0x1AE7, 230), (0x1AEB, 234), (0x1B00, 0), (0x1B34, 7), (0x1B35, 0), (0x1B44, 9), (0x1B6B, 230),
   (0x1B6C, 220), (0x1B6D, 230), (0x1B80, 0), (0x1BAA, 9), (0x1BAC, 0), (0x1BE6, 7), (0x1BE7, 0),
   (0x1BF2, 9), (0x1C24, 0), (0x1C37, 7), (0x1CD0, 230), (0x1CD4, 1), (0x1CD5, 220), (0x1CDA, 230),
   (0x1CDC, 220), (0x1CE0, 230), (0x1CE1, 0), (0x1CE2, 1), (0x1CED, 220), (0x1CF4, 230),
   (0x1CF7, 0), (0x1CF8, 230), (0x1DC2, 220), (0x1DC3, 230), (0x1DCA, 220), (0x1DCB, 230),
   (0x1DCD, 234), (0x1DCE, 214), (0x1DCF, 220), (0x1DD0, 202), (0x1DD1, 230), (0x1DF6, 232),
   (0x1DF7, 228), (0x1DF9, 220), (0x1DFA, 218), (0x1DFB, 230), (0x1DFC, 233), (0x1DFD, 220),
   (0x1DFE, 230), (0x1DFF, 220), (0x20D0, 230), (0x20D2, 1), (0x20D4, 230), (0x20D8, 1),
   (0x20DB, 230), (0x20DD, 0), (0x20E1, 230), (0x20E2, 0), (0x20E5, 1), (0x20E7, 230),
   (0x20E8, 220), (0x20E9, 230), (0x20EA, 1), (0x20EC, 220), (0x20F0, 230), (0x2D7F, 9),
   (0x2DE0, 230), (0x302A, 218), (0x302B, 228), (0x302C, 232), (0x302D, 222), (0x302E, 224),
   (0x3099, 8), (0xA66F, 230), (0xA670, 0), (0xA674, 230), (0xA802, 0), (0xA806, 9), (0xA80B, 0),
   (0xA82C, 9), (0xA880, 0), (0xA8C4, 9), (0xA8C5, 0), (0xA8E0, 230), (0xA8FF, 0), (0xA92B, 220),
   (0xA947, 0), (0xA953, 9), (0xA980, 0), (0xA9B3, 7), (0xA9B4, 0), (0xA9C0, 9), (0xA9E5, 0),
   (0xAAB0, 230), (0xAAB4, 220), (0xAAB7, 230), (0xAAEB, 0), (0xAAF6, 9), (0xABE3, 0), (0xABED, 9),
   (0xFB1E, 26), (0xFE00, 0), (0xFE20, 230), (0xFE27, 220), (0xFE2E, 230), (0x101FD, 220),
   (0x10376, 230), (0x10A01, 0), (0x10A0D, 220), (0x10A0E, 0), (0x10A0F, 230), (0x10A39, 1),
   (0x10A3A, 220), (0x10A3F, 9), (0x10AE5, 230), (0x10AE6, 220), (0x10D24, 230), (0x10EFA, 220),
   (0x10EFC, 0), (0x10EFD, 220), (0x10F48, 230), (0x10F4B, 220), (0x10F4C, 230), (0x10F4D, 220),
   (0x10F82, 230), (0x10F83, 220), (0x10F84, 230), (0x10F85, 220), (0x11000, 0), (0x11046, 9),
   (0x11073, 0), (0x1107F, 9), (0x11080, 0), (0x110B9, 9), (0x110BA, 7), (0x110C2, 0),
   (0x11100, 230), (0x11127, 0), (0x11133, 9), (0x11145, 0), (0x11173, 7), (0x11180, 0),
   (0x111C0, 9), (0x111C9, 0), (0x111CA, 7), (0x111CB, 0), (0x11235, 9), (0x11236, 7), (0x11237, 0),
   (0x112E9, 7), (0x112EA, 9), (0x11300, 0), (0x1133B, 7), (0x1133E, 0), (0x1134D, 9), (0x11357, 0),
   (0x11366, 230), (0x113B8, 0), (0x113CE, 9), (0x113D2, 0), (0x11442, 9), (0x11443, 0),
   (0x11446, 7), (0x1145E, 230), (0x114B0, 0), (0x114C2, 9), (0x114C3, 7), (0x115AF, 0),
   (0x115BF, 9), (0x115C0, 7), (0x115DC, 0), (0x1163F, 9), (0x11640, 0), (0x116B6, 9), (0x116B7, 7),
   (0x1171D, 0), (0x1172B, 9), (0x1182C, 0), (0x11839, 9), (0x1183A, 7), (0x11930, 0), (0x1193D, 9),
   (0x11940, 0), (0x11943, 7), (0x119D1, 0), (0x119E0, 9), (0x119E4, 0), (0x11A34, 9), (0x11A35, 0),
   (0x11A47, 9), (0x11A51, 0), (0x11A99, 9), (0x11B60, 0), (0x11C3F, 9), (0x11C92, 0), (0x11D42, 7),
   (0x11D43, 0), (0x11D44, 9), (0x11D47, 0), (0x11D97, 9), (0x11EF3, 0), (0x11F41, 9), (0x11F5A, 0),
   (0x1612F, 9), (0x16AF0, 1), (0x16B30, 230), (0x16F4F, 0), (0x16FF0, 6), (0x1BC9D, 0),
   (0x1BC9E, 1), (0x1CF00, 0), (0x1D165, 216), (0x1D167, 1), (0x1D16D, 226), (0x1D16E, 216),
   (0x1D17B, 220), (0x1D185, 230), (0x1D18A, 220), (0x1D1AA, 230), (0x1DA00, 0), (0x1E000, 230),
   (0x1E4EC, 232), (0x1E4EE, 220), (0x1E4EF, 230), (0x1E5EF, 220), (0x1E6E3, 230), (0x1E8D0, 220),
   (0x1E944, 230), (0x1E94A, 7), (0xE0100, 0)]

/-- The class of a mark.  Marks of class zero keep their places, as all other characters do. -/
def combiningClass (c : Char) : Nat := if isMark c then runAt classRuns 0 c else 0

/-- Puts a character in front of a text whose marks are in order: it passes the marks of lower
classes. -/
def place (c : Char) : List Char → List Char
  | [] => [c]
  | d :: ds =>
    if combiningClass d != 0 && combiningClass d < combiningClass c then d :: place c ds
    else c :: d :: ds

/-- A text with its marks in order. -/
def ordered (cs : List Char) : List Char := cs.foldr place []

/-! ### Characters with two parts -/

/-- Second parts, with first parts they combine with, each of these followed by the character for
both. -/
def composites : List (Nat × String) :=
  [(0x300, "AÀEÈIÌOÒUÙaàeèiìoòuùÜǛüǜNǸnǹЕЀИЍеѐиѝĒḔēḕŌṐōṑWẀwẁÂẦâầĂẰăằÊỀêềÔỒôồƠỜơờƯỪưừYỲyỳἀἂ"),
   (0x300, "ἁἃἈἊἉἋἐἒἑἓἘἚἙἛἠἢἡἣἨἪἩἫἰἲἱἳἸἺἹἻὀὂὁὃὈὊὉὋὐὒὑὓὙὛὠὢὡὣὨὪὩὫαὰεὲηὴιὶοὸυὺωὼΑᾺΕῈΗῊ᾿῍ϊῒΙῚ"),
   (0x300, "῾῝ϋῢΥῪ¨῭ΟῸΩῺ"),
   (0x301, "AÁEÉIÍOÓUÚYÝaáeéiíoóuúyýCĆcćLĹlĺNŃnńRŔrŕSŚsśZŹzźÜǗüǘGǴgǵÅǺåǻÆǼæǽØǾøǿ¨΅ΑΆΕΈΗΉΙΊ"),
   (0x301, "ΟΌΥΎΩΏϊΐαάεέηήιίϋΰοόυύωώϒϓГЃКЌгѓкќÇḈçḉĒḖēḗÏḮïḯKḰkḱMḾmḿÕṌõṍŌṒōṓPṔpṕŨṸũṹWẂwẃÂẤâấ"),
   (0x301, "ĂẮăắÊẾêếÔỐôốƠỚơớƯỨưứἀἄἁἅἈἌἉἍἐἔἑἕἘἜἙἝἠἤἡἥἨἬἩἭἰἴἱἵἸἼἹἽὀὄὁὅὈὌὉὍὐὔὑὕὙὝὠὤὡὥὨὬὩὭ᾿῎῾῞"),
   (0x302, "AÂEÊIÎOÔUÛaâeêiîoôuûCĈcĉGĜgĝHĤhĥJĴjĵSŜsŝWŴwŵYŶyŷZẐzẑẠẬạậẸỆẹệỌỘọộ"),
   (0x303, "AÃNÑOÕaãnñoõIĨiĩUŨuũVṼvṽÂẪâẫĂẴăẵEẼeẽÊỄêễÔỖôỗƠỠơỡƯỮưữYỸyỹ"),
   (0x304, "AĀaāEĒeēIĪiīOŌoōUŪuūÜǕüǖÄǞäǟȦǠȧǡÆǢæǣǪǬǫǭÖȪöȫÕȬõȭȮȰȯȱYȲyȳИӢиӣУӮуӯGḠgḡḶḸḷḹṚṜṛṝαᾱ"),
   (0x304, "ΑᾹιῑΙῙυῡΥῩ"),
   (0x306, "AĂaăEĔeĕGĞgğIĬiĭOŎoŏUŬuŭУЎИЙийуўЖӁжӂАӐаӑЕӖеӗȨḜȩḝẠẶạặαᾰΑᾸιῐΙῘυῠΥῨ"),
   (0x307, "CĊcċEĖeėGĠgġIİZŻzżAȦaȧOȮoȯBḂbḃDḊdḋFḞfḟHḢhḣMṀmṁNṄnṅPṖpṗRṘrṙSṠsṡŚṤśṥŠṦšṧṢṨṣṩTṪtṫ"),
   (0x307, "WẆwẇXẊxẋYẎyẏſẛ𐗒𐗉𐗚𐗤"),
   (0x308, "AÄEËIÏOÖUÜaäeëiïoöuüyÿYŸΙΪΥΫιϊυϋϒϔЕЁІЇеёіїАӒаӓӘӚәӛЖӜжӝЗӞзӟИӤиӥОӦоӧӨӪөӫЭӬэӭУӰуӱ"),
   (0x308, "ЧӴчӵЫӸыӹHḦhḧÕṎõṏŪṺūṻWẄwẅXẌxẍtẗ"),
   (0x309, "AẢaảÂẨâẩĂẲăẳEẺeẻÊỂêểIỈiỉOỎoỏÔỔôổƠỞơởUỦuủƯỬưửYỶyỷ"), (0x30A, "AÅaåUŮuůwẘyẙ"),
   (0x30B, "OŐoőUŰuűУӲуӳ"),
   (0x30C, "CČcčDĎdďEĚeěLĽlľNŇnňRŘrřSŠsšTŤtťZŽzžAǍaǎIǏiǐOǑoǒUǓuǔÜǙüǚGǦgǧKǨkǩƷǮʒǯjǰHȞhȟ"),
   (0x30F, "AȀaȁEȄeȅIȈiȉOȌoȍRȐrȑUȔuȕѴѶѵѷ"), (0x311, "AȂaȃEȆeȇIȊiȋOȎoȏRȒrȓUȖuȗ"),
   (0x313, "αἀΑἈεἐΕἘηἠΗἨιἰΙἸοὀΟὈυὐωὠΩὨρῤ"), (0x314, "αἁΑἉεἑΕἙηἡΗἩιἱΙἹοὁΟὉυὑΥὙωὡΩὩρῥΡῬ"),
   (0x31B, "OƠoơUƯuư"),
   (0x323, "BḄbḅDḌdḍHḤhḥKḲkḳLḶlḷMṂmṃNṆnṇRṚrṛSṢsṣTṬtṭVṾvṿWẈwẉZẒzẓAẠaạEẸeẹIỊiịOỌoọƠỢơợUỤuụƯỰ"),
   (0x323, "ưựYỴyỵ"), (0x324, "UṲuṳ"), (0x325, "AḀaḁ"), (0x326, "SȘsșTȚtț"),
   (0x327, "CÇcçGĢgģKĶkķLĻlļNŅnņRŖrŗSŞsşTŢtţEȨeȩDḐdḑHḨhḩ"), (0x328, "AĄaąEĘeęIĮiįUŲuųOǪoǫ"),
   (0x32D, "DḒdḓEḘeḙLḼlḽNṊnṋTṰtṱUṶuṷ"), (0x32E, "HḪhḫ"), (0x330, "EḚeḛIḬiḭUṴuṵ"),
   (0x331, "BḆbḇDḎdḏKḴkḵLḺlḻNṈnṉRṞrṟTṮtṯZẔzẕhẖ"),
   (0x338, "←↚→↛↔↮⇐⇍⇔⇎⇒⇏∃∄∈∉∋∌∣∤∥∦∼≁≃≄≅≇≈≉=≠≡≢≍≭<≮>≯≤≰≥≱≲≴≳≵≶≸≷≹≺⊀≻⊁⊂⊄⊃⊅⊆⊈⊇⊉⊢⊬⊨⊭⊩⊮⊫⊯≼⋠≽⋡⊑⋢"),
   (0x338, "⊒⋣⊲⋪⊳⋫⊴⋬⊵⋭"), (0x342, "ἀἆἁἇἈἎἉἏἠἦἡἧἨἮἩἯἰἶἱἷἸἾἹἿὐὖὑὗὙὟὠὦὡὧὨὮὩὯαᾶ¨῁ηῆ᾿῏ιῖϊῗ῾῟υῦϋῧωῶ"),
   (0x345, "ἀᾀἁᾁἂᾂἃᾃἄᾄἅᾅἆᾆἇᾇἈᾈἉᾉἊᾊἋᾋἌᾌἍᾍἎᾎἏᾏἠᾐἡᾑἢᾒἣᾓἤᾔἥᾕἦᾖἧᾗἨᾘἩᾙἪᾚἫᾛἬᾜἭᾝἮᾞἯᾟὠᾠὡᾡὢᾢὣᾣὤᾤὥᾥὦᾦ"),
   (0x345, "ὧᾧὨᾨὩᾩὪᾪὫᾫὬᾬὭᾭὮᾮὯᾯὰᾲαᾳάᾴᾶᾷΑᾼὴῂηῃήῄῆῇΗῌὼῲωῳώῴῶῷΩῼ"), (0x653, "اآ"),
   (0x654, "اأوؤيئەۀہۂےۓ"), (0x655, "اإ"), (0x93C, "नऩरऱळऴ"), (0x9BE, "েো"), (0x9D7, "েৌ"),
   (0xB3E, "େୋ"), (0xB56, "େୈ"), (0xB57, "େୌ"), (0xBBE, "ெொேோ"), (0xBD7, "ஒஔெௌ"), (0xC56, "ెై"),
   (0xCC2, "ೆೊ"), (0xCD5, "ಿೀೆೇೊೋ"), (0xCD6, "ೆೈ"), (0xD3E, "െൊേോ"), (0xD57, "െൌ"), (0xDCA, "ෙේොෝ"),
   (0xDCF, "ෙො"), (0xDDF, "ෙෞ"), (0x102E, "ဥဦ"), (0x1B35, "ᬅᬆᬇᬈᬉᬊᬋᬌᬍᬎᬑᬒᬺᬻᬼᬽᬾᭀᬿᭁᭂᭃ"),
   (0x3099, "かがきぎくぐけげこごさざしじすずせぜそぞただちぢつづてでとどはばひびふぶへべほぼうゔゝゞカガキギクグケゲコゴサザシジスズセゼソゾタダチヂツヅテデトドハバヒビ"),
   (0x3099, "フブヘベホボウヴワヷヰヸヱヹヲヺヽヾ"), (0x309A, "はぱひぴふぷへぺほぽハパヒピフプヘペホポ"), (0x110BA, "𑂙𑂚𑂛𑂜𑂥𑂫"),
   (0x11127, "𑄱𑄮𑄲𑄯"), (0x1133E, "𑍇𑍋"), (0x11357, "𑍇𑍌"), (0x113B8, "𑏅𑎸"), (0x113BB, "𑎄𑎅"),
   (0x113C2, "𑎋𑎎𑏅𑏂"), (0x113C9, "𑎂𑎃𑎐𑎑𑏅𑏉"), (0x114B0, "𑒹𑒼"), (0x114BA, "𑒹𑒻"), (0x114BD, "𑒹𑒾"),
   (0x115AF, "𑖸𑖺𑖹𑖻"), (0x11930, "𑤵𑤸"), (0x1611E, "𖄡𖄞"), (0x1611F, "𖄦𖄩𖄤𖄡𖄦𖄢𖄧"), (0x16120, "𖄨𖄡𖄨"),
   (0x16129, "𖄡𖄩"), (0x16D67, "𖵨𖵧𖵣𖵩𖵩𖵪")]

/-- The characters of a list in pairs. -/
def pairs : List Char → List (Char × Char)
  | a :: b :: rest => (a, b) :: pairs rest
  | _ => []

/-- The Korean syllable for a consonant and a vowel, or for a syllable without a last consonant and
that consonant.  There are 19 first consonants, 21 vowels and 27 last consonants; their syllables
follow each other in this order. -/
def syllable? (a b : Char) : Option Char :=
  let (m, n) := (a.toNat, b.toNat)
  if 0x1100 ≤ m && m < 0x1113 && 0x1161 ≤ n && n < 0x1176 then
    some (Char.ofNat (0xAC00 + 28 * (21 * (m - 0x1100) + (n - 0x1161))))
  else if 0xAC00 ≤ m && m < 0xD7A4 && (m - 0xAC00) % 28 == 0 && 0x11A8 ≤ n && n < 0x11C3 then
    some (Char.ofNat (m + (n - 0x11A7)))
  else none

/-- The character for two. -/
def composite? (a b : Char) : Option Char :=
  (composites.findSome? fun (last, firsts) =>
    if last == b.toNat then (pairs firsts.toList).lookup a else none).or (syllable? a b)

/-- The two parts of a character: the first may have parts itself. -/
def parts? (c : Char) : Option (Char × Char) :=
  composites.findSome? fun (last, firsts) =>
    ((pairs firsts.toList).find? fun pair => pair.2 == c).map fun pair =>
      (pair.1, Char.ofNat last)

/-- The letters of a Korean syllable. -/
def letters? (c : Char) : Option (List Char) :=
  let n := c.toNat - 0xAC00
  if 0xAC00 ≤ c.toNat && c.toNat < 0xD7A4 then
    let start := [Char.ofNat (0x1100 + n / 588), Char.ofNat (0x1161 + n / 28 % 21)]
    some (if n % 28 == 0 then start else start ++ [Char.ofNat (0x11A7 + n % 28)])
  else none

/-- All parts of a character; no character before À has any, and none has more than four. -/
def allParts : Nat → Char → List Char
  | 0, c => [c]
  | fuel + 1, c =>
    if c.toNat < 0xC0 then [c]
    else
      match letters? c, parts? c with
      | some letters, _ => letters
      | none, some (first, last) => allParts fuel first ++ [last]
      | none, none => [c]

/-! ### Composed texts -/

/-- Composes a text behind a character and marks that stay behind it, the last of these first.  A
character combines with it unless such a mark comes between: one of the same class or a higher
one. -/
def composeBehind (start : Char) : List Char → List Char → List Char
  | kept, [] => start :: kept.reverse
  | kept, c :: cs =>
    let class_ := combiningClass c
    let isBlocked := kept.head?.any fun last => class_ ≤ combiningClass last
    match if isBlocked then none else composite? start c with
    | some joined => composeBehind joined kept cs
    | none =>
      if class_ == 0 then start :: kept.reverse ++ composeBehind c [] cs
      else composeBehind start (c :: kept) cs

/-- The composed form of a text. -/
def composed (cs : List Char) : List Char :=
  match ordered (cs.flatMap (allParts 3)) with
  | [] => []
  | c :: cs => composeBehind c [] cs

end Text

end MockLens
