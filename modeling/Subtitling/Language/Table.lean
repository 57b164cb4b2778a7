/-!
Languages of ISO 639: the three-letter code of each, its two-letter code if it has one, and its
English name.
-/

namespace Subtitling.Language

structure Entry where
  threeLetter : String
  twoLetter : Option String
  name : String

private def entriesFirst : List Entry :=
  [⟨"aar", some "aa", "Afar"⟩,
   ⟨"abk", some "ab", "Abkhazian"⟩,
   ⟨"afr", some "af", "Afrikaans"⟩,
   ⟨"aka", some "ak", "Akan"⟩,
   ⟨"amh", some "am", "Amharic"⟩,
   ⟨"ara", some "ar", "Arabic"⟩,
   ⟨"arb", none, "Standard Arabic"⟩,
   ⟨"arg", some "an", "Aragonese"⟩,
   ⟨"asm", some "as", "Assamese"⟩,
   ⟨"ava", some "av", "Avaric"⟩,
   ⟨"aym", some "ay", "Aymara"⟩,
   ⟨"aze", some "az", "Azerbaijani"⟩,
   ⟨"bak", some "ba", "Bashkir"⟩,
   ⟨"bam", some "bm", "Bambara"⟩,
   ⟨"bel", some "be", "Belarusian"⟩,
   ⟨"ben", some "bn", "Bengali"⟩,
   ⟨"bis", some "bi", "Bislama"⟩,
   ⟨"bod", some "bo", "Tibetan"⟩,
   ⟨"bos", some "bs", "Bosnian"⟩,
   ⟨"bre", some "br", "Breton"⟩,
   ⟨"bul", some "bg", "Bulgarian"⟩,
   ⟨"cat", some "ca", "Catalan"⟩,
   ⟨"ces", some "cs", "Czech"⟩,
   ⟨"cha", some "ch", "Chamorro"⟩,
   ⟨"che", some "ce", "Chechen"⟩,
   ⟨"chu", some "cu", "Church Slavic"⟩,
   ⟨"chv", some "cv", "Chuvash"⟩,
   ⟨"cmn", none, "Mandarin Chinese"⟩,
   ⟨"cor", some "kw", "Cornish"⟩,
   ⟨"cos", some "co", "Corsican"⟩,
   ⟨"cre", some "cr", "Cree"⟩,
   ⟨"cym", some "cy", "Welsh"⟩,
   ⟨"dan", some "da", "Danish"⟩,
   ⟨"deu", some "de", "German"⟩,
   ⟨"div", some "dv", "Dhivehi"⟩,
   ⟨"dzo", some "dz", "Dzongkha"⟩,
   ⟨"ell", some "el", "Modern Greek"⟩,
   ⟨"eng", some "en", "English"⟩,
   ⟨"epo", some "eo", "Esperanto"⟩,
   ⟨"est", some "et", "Estonian"⟩,
   ⟨"eus", some "eu", "Basque"⟩,
   ⟨"ewe", some "ee", "Ewe"⟩,
   ⟨"fao", some "fo", "Faroese"⟩,
   ⟨"fas", some "fa", "Persian"⟩,
   ⟨"fij", some "fj", "Fijian"⟩,
   ⟨"fil", none, "Filipino"⟩,
   ⟨"fin", some "fi", "Finnish"⟩,
   ⟨"fra", some "fr", "French"⟩,
   ⟨"fry", some "fy", "Western Frisian"⟩,
   ⟨"ful", some "ff", "Fulah"⟩,
   ⟨"gla", some "gd", "Scottish Gaelic"⟩,
   ⟨"gle", some "ga", "Irish"⟩,
   ⟨"glg", some "gl", "Galician"⟩,
   ⟨"glv", some "gv", "Manx"⟩,
   ⟨"grn", some "gn", "Guarani"⟩,
   ⟨"guj", some "gu", "Gujarati"⟩,
   ⟨"hat", some "ht", "Haitian"⟩,
   ⟨"hau", some "ha", "Hausa"⟩,
   ⟨"haw", none, "Hawaiian"⟩,
   ⟨"hbs", some "sh", "Serbo-Croatian"⟩,
   ⟨"heb", some "he", "Hebrew"⟩,
   ⟨"her", some "hz", "Herero"⟩,
   ⟨"hin", some "hi", "Hindi"⟩,
   ⟨"hmo", some "ho", "Hiri Motu"⟩,
   ⟨"hrv", some "hr", "Croatian"⟩,
   ⟨"hun", some "hu", "Hungarian"⟩,
   ⟨"hye", some "hy", "Armenian"⟩,
   ⟨"ibo", some "ig", "Igbo"⟩,
   ⟨"ido", some "io", "Ido"⟩,
   ⟨"iii", some "ii", "Sichuan Yi"⟩,
   ⟨"iku", some "iu", "Inuktitut"⟩,
   ⟨"ile", some "ie", "Interlingue"⟩,
   ⟨"ina", some "ia", "Interlingua"⟩,
   ⟨"ind", some "id", "Indonesian"⟩,
   ⟨"ipk", some "ik", "Inupiaq"⟩,
   ⟨"isl", some "is", "Icelandic"⟩,
   ⟨"ita", some "it", "Italian"⟩,
   ⟨"jav", some "jv", "Javanese"⟩,
   ⟨"jpn", some "ja", "Japanese"⟩,
   ⟨"kal", some "kl", "Kalaallisut"⟩,
   ⟨"kan", some "kn", "Kannada"⟩,
   ⟨"kas", some "ks", "Kashmiri"⟩,
   ⟨"kat", some "ka", "Georgian"⟩,
   ⟨"kau", some "kr", "Kanuri"⟩,
   ⟨"kaz", some "kk", "Kazakh"⟩,
   ⟨"khm", some "km", "Khmer"⟩,
   ⟨"kik", some "ki", "Kikuyu"⟩,
   ⟨"kin", some "rw", "Kinyarwanda"⟩,
   ⟨"kir", some "ky", "Kirghiz"⟩,
   ⟨"kom", some "kv", "Komi"⟩,
   ⟨"kon", some "kg", "Kongo"⟩,
   ⟨"kor", some "ko", "Korean"⟩,
   ⟨"kua", some "kj", "Kuanyama"⟩,
   ⟨"kur", some "ku", "Kurdish"⟩,
   ⟨"lao", some "lo", "Lao"⟩,
   ⟨"lat", some "la", "Latin"⟩,
   ⟨"lav", some "lv", "Latvian"⟩,
   ⟨"lim", some "li", "Limburgan"⟩,
   ⟨"lin", some "ln", "Lingala"⟩,
   ⟨"lit", some "lt", "Lithuanian"⟩]

private def entriesSecond : List Entry :=
  [⟨"ltz", some "lb", "Luxembourgish"⟩,
   ⟨"lub", some "lu", "Luba-Katanga"⟩,
   ⟨"lug", some "lg", "Ganda"⟩,
   ⟨"mah", some "mh", "Marshallese"⟩,
   ⟨"mal", some "ml", "Malayalam"⟩,
   ⟨"mar", some "mr", "Marathi"⟩,
   ⟨"mis", none, "Uncoded languages"⟩,
   ⟨"mkd", some "mk", "Macedonian"⟩,
   ⟨"mlg", some "mg", "Malagasy"⟩,
   ⟨"mlt", some "mt", "Maltese"⟩,
   ⟨"mon", some "mn", "Mongolian"⟩,
   ⟨"mri", some "mi", "Maori"⟩,
   ⟨"msa", some "ms", "Malay"⟩,
   ⟨"mul", none, "Multiple languages"⟩,
   ⟨"mya", some "my", "Burmese"⟩,
   ⟨"nau", some "na", "Nauru"⟩,
   ⟨"nav", some "nv", "Navajo"⟩,
   ⟨"nbl", some "nr", "South Ndebele"⟩,
   ⟨"nde", some "nd", "North Ndebele"⟩,
   ⟨"ndo", some "ng", "Ndonga"⟩,
   ⟨"nep", some "ne", "Nepali"⟩,
   ⟨"nld", some "nl", "Dutch"⟩,
   ⟨"nno", some "nn", "Norwegian Nynorsk"⟩,
   ⟨"nob", some "nb", "Norwegian Bokmål"⟩,
   ⟨"nor", some "no", "Norwegian"⟩,
   ⟨"nya", some "ny", "Nyanja"⟩,
   ⟨"oci", some "oc", "Occitan"⟩,
   ⟨"oji", some "oj", "Ojibwa"⟩,
   ⟨"ori", some "or", "Oriya"⟩,
   ⟨"orm", some "om", "Oromo"⟩,
   ⟨"oss", some "os", "Ossetian"⟩,
   ⟨"pan", some "pa", "Panjabi"⟩,
   ⟨"pli", some "pi", "Pali"⟩,
   ⟨"pol", some "pl", "Polish"⟩,
   ⟨"por", some "pt", "Portuguese"⟩,
   ⟨"pus", some "ps", "Pushto"⟩,
   ⟨"que", some "qu", "Quechua"⟩,
   ⟨"roh", some "rm", "Romansh"⟩,
   ⟨"ron", some "ro", "Romanian"⟩,
   ⟨"run", some "rn", "Rundi"⟩,
   ⟨"rus", some "ru", "Russian"⟩,
   ⟨"sag", some "sg", "Sango"⟩,
   ⟨"san", some "sa", "Sanskrit"⟩,
   ⟨"sin", some "si", "Sinhala"⟩,
   ⟨"slk", some "sk", "Slovak"⟩,
   ⟨"slv", some "sl", "Slovenian"⟩,
   ⟨"sme", some "se", "Northern Sami"⟩,
   ⟨"smo", some "sm", "Samoan"⟩,
   ⟨"sna", some "sn", "Shona"⟩,
   ⟨"snd", some "sd", "Sindhi"⟩,
   ⟨"som", some "so", "Somali"⟩,
   ⟨"sot", some "st", "Southern Sotho"⟩,
   ⟨"spa", some "es", "Spanish"⟩,
   ⟨"sqi", some "sq", "Albanian"⟩,
   ⟨"srd", some "sc", "Sardinian"⟩,
   ⟨"srp", some "sr", "Serbian"⟩,
   ⟨"ssw", some "ss", "Swati"⟩,
   ⟨"sun", some "su", "Sundanese"⟩,
   ⟨"swa", some "sw", "Swahili"⟩,
   ⟨"swe", some "sv", "Swedish"⟩,
   ⟨"tah", some "ty", "Tahitian"⟩,
   ⟨"tam", some "ta", "Tamil"⟩,
   ⟨"tat", some "tt", "Tatar"⟩,
   ⟨"tel", some "te", "Telugu"⟩,
   ⟨"tgk", some "tg", "Tajik"⟩,
   ⟨"tgl", some "tl", "Tagalog"⟩,
   ⟨"tha", some "th", "Thai"⟩,
   ⟨"tir", some "ti", "Tigrinya"⟩,
   ⟨"tlh", none, "Klingon"⟩,
   ⟨"ton", some "to", "Tonga"⟩,
   ⟨"tsn", some "tn", "Tswana"⟩,
   ⟨"tso", some "ts", "Tsonga"⟩,
   ⟨"tuk", some "tk", "Turkmen"⟩,
   ⟨"tur", some "tr", "Turkish"⟩,
   ⟨"twi", some "tw", "Twi"⟩,
   ⟨"uig", some "ug", "Uighur"⟩,
   ⟨"ukr", some "uk", "Ukrainian"⟩,
   ⟨"und", none, "Undetermined"⟩,
   ⟨"urd", some "ur", "Urdu"⟩,
   ⟨"uzb", some "uz", "Uzbek"⟩,
   ⟨"ven", some "ve", "Venda"⟩,
   ⟨"vie", some "vi", "Vietnamese"⟩,
   ⟨"vol", some "vo", "Volapük"⟩,
   ⟨"wln", some "wa", "Walloon"⟩,
   ⟨"wol", some "wo", "Wolof"⟩,
   ⟨"xho", some "xh", "Xhosa"⟩,
   ⟨"yid", some "yi", "Yiddish"⟩,
   ⟨"yor", some "yo", "Yoruba"⟩,
   ⟨"yue", none, "Yue Chinese"⟩,
   ⟨"zha", some "za", "Zhuang"⟩,
   ⟨"zho", some "zh", "Chinese"⟩,
   ⟨"zul", some "zu", "Zulu"⟩,
   ⟨"zxx", none, "No linguistic content"⟩]

def entries : List Entry := entriesFirst ++ entriesSecond

/-- Bibliographic codes that differ from the three-letter code of their language. -/
def bibliographic : List (String × String) :=
  [("fre", "fra"), ("ger", "deu"), ("dut", "nld"), ("gre", "ell"), ("chi", "zho"), ("cze", "ces"),
   ("ice", "isl"), ("alb", "sqi"), ("arm", "hye"), ("baq", "eus"), ("bur", "mya"), ("per", "fas"),
   ("geo", "kat"), ("may", "msa"), ("mac", "mkd"), ("rum", "ron"), ("slo", "slk"), ("wel", "cym")]

end Subtitling.Language
