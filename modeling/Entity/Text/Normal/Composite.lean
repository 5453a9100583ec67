import Entity.Text.Ranges
import Entity.Text.Split

/-!
# Composites

A letter and a mark after it may be one character: `e` and an acute accent are `é`.  Here are the
pairs that are, for the characters that may stand in names; the syllables of Hangul are counted.
-/

namespace Entity.Text

/-- By the code point of the mark: each letter with the character that both make. -/
def composites : List (Nat × String) := [
    (0x300, "AÀ EÈ IÌ OÒ UÙ aà eè iì oò uù ÜǛ üǜ NǸ nǹ ЕЀ ИЍ еѐ иѝ ĒḔ ēḕ ŌṐ ōṑ WẀ wẁ ÂẦ âầ ĂẰ ăằ
      ÊỀ êề ÔỒ ôồ ƠỜ ơờ ƯỪ ưừ YỲ yỳ ἀἂ ἁἃ ἈἊ ἉἋ ἐἒ ἑἓ ἘἚ ἙἛ ἠἢ ἡἣ ἨἪ ἩἫ ἰἲ ἱἳ ἸἺ ἹἻ ὀὂ ὁὃ ὈὊ ὉὋ
      ὐὒ ὑὓ ὙὛ ὠὢ ὡὣ ὨὪ ὩὫ αὰ εὲ ηὴ ιὶ οὸ υὺ ωὼ ΑᾺ ΕῈ ΗῊ ϊῒ ΙῚ ϋῢ ΥῪ ΟῸ ΩῺ"),
    (0x301, "AÁ EÉ IÍ OÓ UÚ YÝ aá eé ií oó uú yý CĆ cć LĹ lĺ NŃ nń RŔ rŕ SŚ sś ZŹ zź ÜǗ üǘ GǴ gǵ
      ÅǺ åǻ ÆǼ æǽ ØǾ øǿ ΑΆ ΕΈ ΗΉ ΙΊ ΟΌ ΥΎ ΩΏ ϊΐ αά εέ ηή ιί ϋΰ οό υύ ωώ ϒϓ ГЃ КЌ гѓ кќ ÇḈ çḉ ĒḖ
      ēḗ ÏḮ ïḯ KḰ kḱ MḾ mḿ ÕṌ õṍ ŌṒ ōṓ PṔ pṕ ŨṸ ũṹ WẂ wẃ ÂẤ âấ ĂẮ ăắ ÊẾ êế ÔỐ ôố ƠỚ ơớ ƯỨ ưứ ἀἄ
      ἁἅ ἈἌ ἉἍ ἐἔ ἑἕ ἘἜ ἙἝ ἠἤ ἡἥ ἨἬ ἩἭ ἰἴ ἱἵ ἸἼ ἹἽ ὀὄ ὁὅ ὈὌ ὉὍ ὐὔ ὑὕ ὙὝ ὠὤ ὡὥ ὨὬ ὩὭ"),
    (0x302, "AÂ EÊ IÎ OÔ UÛ aâ eê iî oô uû CĈ cĉ GĜ gĝ HĤ hĥ JĴ jĵ SŜ sŝ WŴ wŵ YŶ yŷ ZẐ zẑ ẠẬ ạậ
      ẸỆ ẹệ ỌỘ ọộ"),
    (0x303, "AÃ NÑ OÕ aã nñ oõ IĨ iĩ UŨ uũ VṼ vṽ ÂẪ âẫ ĂẴ ăẵ EẼ eẽ ÊỄ êễ ÔỖ ôỗ ƠỠ ơỡ ƯỮ ưữ YỸ
      yỹ"),
    (0x304, "AĀ aā EĒ eē IĪ iī OŌ oō UŪ uū ÜǕ üǖ ÄǞ äǟ ȦǠ ȧǡ ÆǢ æǣ ǪǬ ǫǭ ÖȪ öȫ ÕȬ õȭ ȮȰ ȯȱ YȲ yȳ
      ИӢ иӣ УӮ уӯ GḠ gḡ ḶḸ ḷḹ ṚṜ ṛṝ αᾱ ΑᾹ ιῑ ΙῙ υῡ ΥῩ"),
    (0x306, "AĂ aă EĔ eĕ GĞ gğ IĬ iĭ OŎ oŏ UŬ uŭ УЎ ИЙ ий уў ЖӁ жӂ АӐ аӑ ЕӖ еӗ ȨḜ ȩḝ ẠẶ ạặ αᾰ ΑᾸ
      ιῐ ΙῘ υῠ ΥῨ"),
    (0x307, "CĊ cċ EĖ eė GĠ gġ Iİ ZŻ zż AȦ aȧ OȮ oȯ BḂ bḃ DḊ dḋ FḞ fḟ HḢ hḣ MṀ mṁ NṄ nṅ PṖ pṗ RṘ
      rṙ SṠ sṡ ŚṤ śṥ ŠṦ šṧ ṢṨ ṣṩ TṪ tṫ WẆ wẇ XẊ xẋ YẎ yẏ ſẛ"),
    (0x308, "AÄ EË IÏ OÖ UÜ aä eë iï oö uü yÿ YŸ ΙΪ ΥΫ ιϊ υϋ ϒϔ ЕЁ ІЇ её ії АӒ аӓ ӘӚ әӛ ЖӜ жӝ ЗӞ
      зӟ ИӤ иӥ ОӦ оӧ ӨӪ өӫ ЭӬ эӭ УӰ уӱ ЧӴ чӵ ЫӸ ыӹ HḦ hḧ ÕṎ õṏ ŪṺ ūṻ WẄ wẅ XẌ xẍ tẗ"),
    (0x309, "AẢ aả ÂẨ âẩ ĂẲ ăẳ EẺ eẻ ÊỂ êể IỈ iỉ OỎ oỏ ÔỔ ôổ ƠỞ ơở UỦ uủ ƯỬ ưử YỶ yỷ"),
    (0x30A, "AÅ aå UŮ uů wẘ yẙ"),
    (0x30B, "OŐ oő UŰ uű УӲ уӳ"),
    (0x30C, "CČ cč DĎ dď EĚ eě LĽ lľ NŇ nň RŘ rř SŠ sš TŤ tť ZŽ zž AǍ aǎ IǏ iǐ OǑ oǒ UǓ uǔ ÜǙ üǚ
      GǦ gǧ KǨ kǩ ƷǮ ʒǯ jǰ HȞ hȟ"),
    (0x30F, "AȀ aȁ EȄ eȅ IȈ iȉ OȌ oȍ RȐ rȑ UȔ uȕ ѴѶ ѵѷ"),
    (0x311, "AȂ aȃ EȆ eȇ IȊ iȋ OȎ oȏ RȒ rȓ UȖ uȗ"),
    (0x313, "αἀ ΑἈ εἐ ΕἘ ηἠ ΗἨ ιἰ ΙἸ οὀ ΟὈ υὐ ωὠ ΩὨ ρῤ"),
    (0x314, "αἁ ΑἉ εἑ ΕἙ ηἡ ΗἩ ιἱ ΙἹ οὁ ΟὉ υὑ ΥὙ ωὡ ΩὩ ρῥ ΡῬ"),
    (0x31B, "OƠ oơ UƯ uư"),
    (0x323, "BḄ bḅ DḌ dḍ HḤ hḥ KḲ kḳ LḶ lḷ MṂ mṃ NṆ nṇ RṚ rṛ SṢ sṣ TṬ tṭ VṾ vṿ WẈ wẉ ZẒ zẓ AẠ aạ
      EẸ eẹ IỊ iị OỌ oọ ƠỢ ơợ UỤ uụ ƯỰ ưự YỴ yỵ"),
    (0x324, "UṲ uṳ"),
    (0x325, "AḀ aḁ"),
    (0x326, "SȘ sș TȚ tț"),
    (0x327, "CÇ cç GĢ gģ KĶ kķ LĻ lļ NŅ nņ RŖ rŗ SŞ sş TŢ tţ EȨ eȩ DḐ dḑ HḨ hḩ"),
    (0x328, "AĄ aą EĘ eę IĮ iį UŲ uų OǪ oǫ"),
    (0x32D, "DḒ dḓ EḘ eḙ LḼ lḽ NṊ nṋ TṰ tṱ UṶ uṷ"),
    (0x32E, "HḪ hḫ"),
    (0x330, "EḚ eḛ IḬ iḭ UṴ uṵ"),
    (0x331, "BḆ bḇ DḎ dḏ KḴ kḵ LḺ lḻ NṈ nṉ RṞ rṟ TṮ tṯ ZẔ zẕ hẖ"),
    (0x342, "ἀἆ ἁἇ ἈἎ ἉἏ ἠἦ ἡἧ ἨἮ ἩἯ ἰἶ ἱἷ ἸἾ ἹἿ ὐὖ ὑὗ ὙὟ ὠὦ ὡὧ ὨὮ ὩὯ αᾶ ηῆ ιῖ ϊῗ υῦ ϋῧ ωῶ"),
    (0x345, "ἀᾀ ἁᾁ ἂᾂ ἃᾃ ἄᾄ ἅᾅ ἆᾆ ἇᾇ Ἀᾈ Ἁᾉ Ἂᾊ Ἃᾋ Ἄᾌ Ἅᾍ Ἆᾎ Ἇᾏ ἠᾐ ἡᾑ ἢᾒ ἣᾓ ἤᾔ ἥᾕ ἦᾖ ἧᾗ Ἠᾘ Ἡᾙ Ἢᾚ Ἣᾛ
      Ἤᾜ Ἥᾝ Ἦᾞ Ἧᾟ ὠᾠ ὡᾡ ὢᾢ ὣᾣ ὤᾤ ὥᾥ ὦᾦ ὧᾧ Ὠᾨ Ὡᾩ Ὢᾪ Ὣᾫ Ὤᾬ Ὥᾭ Ὦᾮ Ὧᾯ ὰᾲ αᾳ άᾴ ᾶᾷ Αᾼ ὴῂ ηῃ ήῄ ῆῇ Ηῌ
      ὼῲ ωῳ ώῴ ῶῷ Ωῼ"),
    (0x653, "اآ"),
    (0x654, "اأ وؤ يئ ەۀ ہۂ ےۓ"),
    (0x655, "اإ"),
    (0x93C, "नऩ रऱ ळऴ"),
    (0x9BE, "েো"),
    (0x9D7, "েৌ"),
    (0xB3E, "େୋ"),
    (0xB56, "େୈ"),
    (0xB57, "େୌ"),
    (0xBBE, "ெொ ேோ"),
    (0xBD7, "ஒஔ ெௌ"),
    (0xC56, "ెై"),
    (0xCC2, "ೆೊ"),
    (0xCD5, "ಿೀ ೆೇ ೊೋ"),
    (0xCD6, "ೆೈ"),
    (0xD3E, "െൊ േോ"),
    (0xD57, "െൌ"),
    (0xDCA, "ෙේ ොෝ"),
    (0xDCF, "ෙො"),
    (0xDDF, "ෙෞ"),
    (0x102E, "ဥဦ"),
    (0x1B35, "ᬅᬆ ᬇᬈ ᬉᬊ ᬋᬌ ᬍᬎ ᬑᬒ ᬺᬻ ᬼᬽ ᬾᭀ ᬿᭁ ᭂᭃ"),
    (0x3099, "かが きぎ くぐ けげ こご さざ しじ すず せぜ そぞ ただ ちぢ つづ てで とど はば ひび ふぶ へべ ほぼ うゔ ゝゞ カガ キギ クグ ケゲ コゴ
      サザ シジ スズ セゼ ソゾ タダ チヂ ツヅ テデ トド ハバ ヒビ フブ ヘベ ホボ ウヴ ワヷ ヰヸ ヱヹ ヲヺ ヽヾ"),
    (0x309A, "はぱ ひぴ ふぷ へぺ ほぽ ハパ ヒピ フプ ヘペ ホポ"),
    (0x110BA, "𑂙𑂚 𑂛𑂜 𑂥𑂫"),
    (0x11127, "𑄱𑄮 𑄲𑄯"),
    (0x1133E, "𑍇𑍋"),
    (0x11357, "𑍇𑍌"),
    (0x114B0, "𑒹𑒼"),
    (0x114BA, "𑒹𑒻"),
    (0x114BD, "𑒹𑒾"),
    (0x115AF, "𑖸𑖺 𑖹𑖻"),
    (0x11930, "𑤵𑤸")]

/-- The letters of one mark with their composites. -/
def pairsOf (s : String) : List (Char × Char) :=
  (words s.toList).filterMap fun
    | [letter, whole] => some (letter, whole)
    | _ => none

/-! ## Syllables -/

/-- The syllable of a consonant and a vowel, or of a syllable without a last consonant and one. -/
def syllable? (a b : Char) : Option Char :=
  let m := a.toNat
  let n := b.toNat
  if 0x1100 ≤ m ∧ m ≤ 0x1112 ∧ 0x1161 ≤ n ∧ n ≤ 0x1175 then
    some (Char.ofNat (0xAC00 + ((m - 0x1100) * 21 + (n - 0x1161)) * 28))
  else if 0xAC00 ≤ m ∧ m ≤ 0xD7A3 ∧ (m - 0xAC00) % 28 = 0 ∧ 0x11A8 ≤ n ∧ n ≤ 0x11C2 then
    some (Char.ofNat (m + (n - 0x11A7)))
  else none

/-- The two parts of a syllable: the last consonant is taken off first. -/
def syllableParts? (c : Char) : Option (Char × Char) :=
  let n := c.toNat
  let i := n - 0xAC00
  if n < 0xAC00 ∨ 0xD7A3 < n then none
  else if i % 28 = 0 then
    some (Char.ofNat (0x1100 + i / 588), Char.ofNat (0x1161 + i % 588 / 28))
  else some (Char.ofNat (n - i % 28), Char.ofNat (0x11A7 + i % 28))

/-- The parts of a syllable make the syllable. -/
theorem syllable?_of_syllableParts? {a b c : Char} (h : syllableParts? c = some (a, b)) :
    syllable? a b = some c := by
  simp only [syllableParts?] at h
  split at h
  · simp at h
  · rename_i hr
    have hc : Char.ofNat c.toNat = c := Char.ofNat_toNat c
    split at h
    · rename_i hi
      obtain ⟨rfl, rfl⟩ := Prod.mk.inj (Option.some.inj h)
      have ha : (0x1100 + (c.toNat - 0xAC00) / 588).isValidChar := Or.inl (by omega)
      have hb : (0x1161 + (c.toNat - 0xAC00) % 588 / 28).isValidChar := Or.inl (by omega)
      simp only [syllable?, toNat_ofNat ha, toNat_ofNat hb]
      have hn : 0xAC00 + ((0x1100 + (c.toNat - 0xAC00) / 588 - 0x1100) * 21 +
          (0x1161 + (c.toNat - 0xAC00) % 588 / 28 - 0x1161)) * 28 = c.toNat := by omega
      rw [if_pos (by omega), hn, hc]
    · rename_i hi
      obtain ⟨rfl, rfl⟩ := Prod.mk.inj (Option.some.inj h)
      have ha : (c.toNat - (c.toNat - 0xAC00) % 28).isValidChar := Or.inl (by omega)
      have hb : (0x11A7 + (c.toNat - 0xAC00) % 28).isValidChar := Or.inl (by omega)
      simp only [syllable?, toNat_ofNat ha, toNat_ofNat hb]
      have hn : c.toNat - (c.toNat - 0xAC00) % 28 + (0x11A7 + (c.toNat - 0xAC00) % 28 - 0x11A7) =
          c.toNat := by omega
      rw [if_neg (by omega), if_pos (by omega), hn, hc]

/-! ## Putting together and taking apart -/

/-- The character that a letter and a mark after it make. -/
def composed? (letter mark : Char) : Option Char :=
  match syllable? letter mark, composites.lookup mark.toNat with
  | some c, _ => some c
  | none, some pairs => (pairsOf pairs).lookup letter
  | none, none => none

/-- The letter and the mark that a character is made of. -/
def parts? (c : Char) : Option (Char × Char) :=
  match syllableParts? c with
  | some parts => some parts
  | none => composites.findSome? fun (mark, pairs) =>
    ((pairsOf pairs).find? fun p => p.2 == c).map fun p => (p.1, Char.ofNat mark)

end Entity.Text
