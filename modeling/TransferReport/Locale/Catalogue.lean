/-!
# The catalogue of locales

The locales that are known, by their decimal mark, and the identifiers that stand for a known
locale because their script or territory is the likely one.
-/

namespace TransferReport.Locale

/-- The locales that write a point. -/
def pointLocales : List String :=
  ["en", "de_CH", "de_LI", "es_MX", "es_419", "es_US", "it_CH", "ja", "ko", "zh", "zh_Hans",
   "zh_Hant", "ar", "ar_EG", "fa", "he", "hi", "bn", "th", "mr", "my", "ne", "ur", "en_US", "en_GB",
   "en_IN", "sw", "ms", "qu", "az_Arab", "az_Cyrl", "ff_Adlm", "kk_Arab", "ta", "root",
   "en_US_POSIX", "zh_Hant_TW", "zh_Hans_CN", "zh_Hant_HK", "he_IL", "fil_PH"]

/-- The locales that write a comma. -/
def commaLocales : List String :=
  ["de", "fr", "de_DE", "de_AT", "pt", "pt_PT", "pt_BR", "es", "es_ES", "es_AR", "it", "ru", "pl",
   "cs", "sv", "nb", "nn", "no", "da", "fi", "nl", "tr", "uk", "ar_MA", "ar_DZ", "ps", "en_DE",
   "en_ZA", "en_FR", "fr_CH", "fr_CA", "sw_CD", "ms_ID", "qu_BO", "az", "ff", "kk", "sr", "sr_Latn",
   "sr_Cyrl_RS", "uz_Arab", "vi", "id", "ca_ES_VALENCIA", "el_POLYTON", "be_TARASK", "id_ID",
   "ro_RO", "sr_Latn_RS"]

/-- The locales that write the Arabic decimal separator. -/
def arabicLocales : List String :=
  ["bgn", "bgn_PK"]

/-- The decimal mark of a known locale. -/
def mark? (base : String) : Option Char :=
  if pointLocales.contains base then some '.'
  else if commaLocales.contains base then some ','
  else if arabicLocales.contains base then some (Char.ofNat 0x66B)
  else none

/-- Identifiers of no locale and the locale that they most likely mean. -/
def likelyLocales : List (String × String) :=
  [("zh_TW", "zh_Hant_TW"),
   ("zh_CN", "zh_Hans_CN"),
   ("zh_HK", "zh_Hant_HK"),
   ("iw", "he_IL"),
   ("tl", "fil_PH"),
   ("und", "en_US"),
   ("in", "id_ID"),
   ("mo", "ro_RO"),
   ("und_AT", "de_AT"),
   ("sr_RS", "sr_Cyrl_RS")]

end TransferReport.Locale
