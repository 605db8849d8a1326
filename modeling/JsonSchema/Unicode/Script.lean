import JsonSchema.Unicode.RangeSet

/-! Scripts: the one a character belongs to and, for characters that several scripts use, all of those. -/
namespace JsonSchema.Unicode

def scripts : List (List String × RangeSet) := [
  (["adlm", "adlam"], .decode [
    "Zwe0YB4941"]),
  (["ahom"], .decode [
    "Ybu0Q2E4M"]),
  (["hluw", "anatolianhieroglyphs"], .decode [
    "YnW0o6"]),
  (["arab", "arabic"], .decode [
    "Xm04151D121V19BP1ZB1X1YGXFdGU115YA1SXyoGZIGhA2YF2XL70X0FZG41a6Zx3UY32XN3Xtu031Q11102019131010604010101211102",
    "01010101011102316131310191G52141GXK1"]),
  (["armn", "armenian"], .decode [
    "XfHX52XH22Xzi34"]),
  (["avst", "avestan"], .decode [
    "YYu0XL36"]),
  (["bali", "balinese"], .decode [
    "cu0YC1XH"]),
  (["bamu", "bamum"], .decode [
    "Xfr0YNXme8nO"]),
  (["bass", "bassavah"], .decode [
    "YwsGT25"]),
  (["batk", "batak"], .decode [
    "c-0XJ83"]),
  (["beng", "bengali"], .decode [
    "Yi0317212L1610332821238041142O"]),
  (["bhks", "bhaiksuki"], .decode [
    "YdW081XC1DAS"]),
  (["bopo", "bopomofo"], .decode [
    "tA1hmPXAZGV"]),
  (["brah", "brahmi"], .decode [
    "YaW0YD4X390"]),
  (["brai", "braille"], .decode [
    "gW0dV"]),
  (["bugi", "buginese"], .decode [
    "cm0R21"]),
  (["buhd", "buhid"], .decode [
    "bw0J"]),
  (["cans", "canadianaboriginal"], .decode [
    "bW0pVnGY5YWjQF"]),
  (["cari", "carian"], .decode [
    "YWr0XG"]),
  (["aghb", "caucasianalbanian"], .decode [
    "YXfGXJB0"]),
  (["cakm", "chakma"], .decode [
    "Yae0XK1H"]),
  (["cham"], .decode [
    "Xgm0XM9D2923"]),
  (["cher", "cherokee"], .decode [
    "az0YL25XbxIYF"]),
  (["chrs", "chorasmian"], .decode [
    "YZzGR"]),
  (["zyyy", "common"], .decode [
    "0Y0Q5QXE1E14N0V0k1X6542JZK0906010pT060E030X00aS0m40a11XcP0iL3f20XlF2Y71cB110XcD0D073151220u5B2YM1A3A1EHX0XVX",
    "512251Q1GX924qPMALyVe0pJ2V1Z8m0YTiIK101OF743YR130YQ1aJFX0X590XGXVVYGXF0YOb7ck0XVse0X1Z62b59dK0b00iB0E1qkI1cG",
    "9MX21I13aJ01VQ5QAA0XD1Y0616A4e224XC38YGCXJXCd4QXkj43ZwSdP6jJaSZJXSdLAX62XT3G817T4XScLJCJCYM9Oa7YK1Y611202123",
    "1B10161Y01327161R131410361gJ2f32XHbZHY3YCXSs2XB4Z3CE2E1E1X4AbDXOP11DXB4871E5aQ-N4G3C3ZM4YU6B40FB4XN896X78T2B",
    "41XUgJCD2C395XN7E2A687aI1Z5uXW70UYV"]),
  (["copt", "qaac", "coptic"], .decode [
    "_2DgaGZJ56"]),
  (["xsux", "cuneiform"], .decode [
    "YeW0yPZ6ZE14Bc3"]),
  (["cprt", "cypriot"], .decode [
    "YYW05201XB113020"]),
  (["cpmn", "cyprominoan"], .decode [
    "YhyGZ2"]),
  (["cyrl", "cyrillic"], .decode [
    "XW0a42b8bwGAb00YC0aZ7V-Y0YVryE1Xum0XTX10"]),
  (["dsrt", "deseret"], .decode [
    "YXW0YF"]),
  (["deva", "devanagari"], .decode [
    "Ye0YG4E2PXdx0Vym09"]),
  (["diak", "divesakuru"], .decode [
    "Yce062027111T112B99"]),
  (["dogr", "dogra"], .decode [
    "YcW0XR"]),
  (["dupl", "duployan"], .decode [
    "ZlW0ZA5C387923"]),
  (["egyp", "egyptianhieroglyphs"], .decode [
    "YiW0XYLAZyQ"]),
  (["elba", "elbasan"], .decode [
    "YXe0X7"]),
  (["elym", "elymaic"], .decode [
    "YZ_0M"]),
  (["ethi", "ethiopic"], .decode [
    "am0Y8132610132X8132X0132610132E1XO132Y22V3Pcl6M9616161616161616_f2525259616YlbH613111E"]),
  (["gara", "garay"], .decode [
    "YZg0X53S81"]),
  (["geor", "georgian"], .decode [
    "ab0X510502XA13YyGXA22aY0X51050"]),
  (["glag", "glagolitic"], .decode [
    "hW0YVZiz061G261114"]),
  (["goth", "gothic"], .decode [
    "YWvGQ"]),
  (["gran", "grantha"], .decode [
    "Yau0317212L1611142821222060562634"]),
  (["grek", "greek"], .decode [
    "xG3122310401012101J1XUEFcf64XI444YK0g0L252X525271010101U2XK1E1D251I2218f70XYnU0rkQYEH0XqYVY5"]),
  (["gujr", "gujarati"], .decode [
    "Yq1218121L16111429121220F32B76"]),
  (["gong", "gunjalagondi"], .decode [
    "Ydh05111X4111579"]),
  (["guru", "gurmukhi"], .decode [
    "Ym1215412L16111111201441223073107G"]),
  (["gukh", "gurungkhema"], .decode [
    "Yue0XP"]),
  (["han", "hani"], .decode [
    "hq0P1YOCcLXF010P8E3-4cjVY0qlVse0hD2Z9ze81C1XaWEXfsVX0aXP6cT2bq1EdfGFpDYj2mTXl2awA5aYV"]),
  (["hang", "hangul"], .decode [
    "ae0dVdnE1e1YTZHUY1Uzt1Sq3gz3CM4XGfz4U35252522"]),
  (["rohg", "hanifirohingya"], .decode [
    "YZe0X789"]),
  (["hano", "hanunoo"], .decode [
    "bv0K"]),
  (["hatr", "hatran"], .decode [
    "YYd0I1154"]),
  (["hebr", "hebrew"], .decode [
    "XiHXM8Q45Xzf8P1410111119"]),
  (["hira", "hiragana"], .decode [
    "iY1YL62Y_x1eUI0T2mbD0"]),
  (["armi", "imperialaramaic"], .decode [
    "YYY0L18"]),
  (["qaai", "zinh", "inherited"], .decode [
    "u0ZFeL1k4AQ0t03agRUm121C16406031c6XVmC1c2X0ZvP3ZB1Xph5FGD-F0d20aYQ0Xk-4XD2Mn02H726U3uhwIdF"]),
  (["phli", "inscriptionalpahlavi"], .decode [
    "YYx0I57"]),
  (["prti", "inscriptionalparthian"], .decode [
    "YYw0L27"]),
  (["java", "javanese"], .decode [
    "Xgi0YD2941"]),
  (["kthi", "kaithi"], .decode [
    "Yaa0Y2A0"]),
  (["knda", "kannada"], .decode [
    "Za0C121M19142812137161132912"]),
  (["kana", "katakana"], .decode [
    "ib1YP22dGFcGXE1YNXpWE91XCXiYI3161110eV2XI0E3"]),
  (["kawi"], .decode [
    "Ydu0G1X83S"]),
  (["kali", "kayahli"], .decode [
    "Xge0XD10"]),
  (["khar", "kharoshthi"], .decode [
    "YYm031157121S224978"]),
  (["kits", "khitansmallscript"], .decode [
    "Yx_40cuRkLX90"]),
  (["khmr", "khmer"], .decode [
    "by0YT2969l6V"]),
  (["khoj", "khojki"], .decode [
    "Yam0H1XE"]),
  (["sind", "khudawadi"], .decode [
    "YarGXQ59"]),
  (["krai", "kiratrai"], .decode [
    "Yxg0XP"]),
  (["lao", "laoo"], .decode [
    "Zq1110141N101M2410161923"]),
  (["latn", "latin"], .decode [
    "Y1P6PXF0F05M1U1k0X74cmRX56XG535C1Y5Y1dVhH0D0GCaD160R0HX8YsNV-r2Z53Y2211017LDvGXA1813pyM6XWQP6PYX551X918Xrw5U",
    "65"]),
  (["lepc", "lepcha"], .decode [
    "dW0XN3E32"]),
  (["limb", "limbu"], .decode [
    "ce0U1B4B403B"]),
  (["lina", "lineara"], .decode [
    "YXm0fM9LA7"]),
  (["linb", "linearb"], .decode [
    "YWW0B1P1I111E2DX2ZQ"]),
  (["lisu"], .decode [
    "XfcGXF-rG0"]),
  (["lyci", "lycian"], .decode [
    "YWq0S"]),
  (["lydi", "lydian"], .decode [
    "YYf0P50"]),
  (["mahj", "mahajani"], .decode [
    "YagGX6"]),
  (["maka", "makasar"], .decode [
    "Ydt0O"]),
  (["mlym", "malayalam"], .decode [
    "Ze0C121XI12154F2P"]),
  (["mand", "mandaic"], .decode [
    "YY0R20"]),
  (["mani", "manichaean"], .decode [
    "YYs0X64B"]),
  (["marc", "marchen"], .decode [
    "YdZGV2L1D"]),
  (["gonm", "masaramgondi"], .decode [
    "Yde06111XB30111889"]),
  (["medf", "medefaidrin"], .decode [
    "Yxo0YQ"]),
  (["mtei", "meeteimayek"], .decode [
    "Xgt0Mc9XD29"]),
  (["mend", "mendekikakui"], .decode [
    "ZwW0c42F"]),
  (["merc", "meroiticcursive"], .decode [
    "YYj0N4J2XD"]),
  (["mero", "meroitichieroglyphs"], .decode [
    "YYi0V"]),
  (["miao", "plrd"], .decode [
    "Yxu0YA4XO7G"]),
  (["modi"], .decode [
    "Ybm0Y4B9"]),
  (["mong", "mongolian"], .decode [
    "cW01201J6YO7XAX_jLC"]),
  (["mro", "mroo"], .decode [
    "Ywo0U1941"]),
  (["mult", "multani"], .decode [
    "Yaq0610131E1A"]),
  (["mymr", "myanmar"], .decode [
    "aW0aVXcg0UZ1VxYGJ"]),
  (["nbat", "nabataean"], .decode [
    "YYa0U88"]),
  (["nagm", "nagmundari"], .decode [
    "ZvcGX9"]),
  (["nand", "nandinagari"], .decode [
    "Ycj072XD2A"]),
  (["talu", "newtailue"], .decode [
    "ci0XB4P6A31"]),
  (["newa"], .decode [
    "YbW0YR14"]),
  (["nko", "nkoo"], .decode [
    "X-0XQ22"]),
  (["nshu", "nushu"], .decode [
    "Yx_10miEiB"]),
  (["hmnp", "nyiakengpuachuehmong"], .decode [
    "Zue0XC3D2941"]),
  (["ogam", "ogham"], .decode [
    "bq0S"]),
  (["olck", "olchiki"], .decode [
    "dYGXF"]),
  (["onao", "olonal"], .decode [
    "ZvkGXA40"]),
  (["hung", "oldhungarian"], .decode [
    "YZa0XIDXI75"]),
  (["ital", "olditalic"], .decode [
    "YWu0X392"]),
  (["narb", "oldnortharabian"], .decode [
    "YYq0V"]),
  (["perm", "oldpermic"], .decode [
    "YWwGXA"]),
  (["xpeo", "oldpersian"], .decode [
    "YWz0X34D"]),
  (["sogo", "oldsogdian"], .decode [
    "YZu0X7"]),
  (["sarb", "oldsoutharabian"], .decode [
    "YYp0V"]),
  (["orkh", "oldturkic"], .decode [
    "YZW0Y8"]),
  (["ougr", "olduyghur"], .decode [
    "YZxGP"]),
  (["orya", "oriya"], .decode [
    "Yu1217212L1611142821227241142H"]),
  (["osge", "osage"], .decode [
    "YXbGX34X3"]),
  (["osma", "osmanya"], .decode [
    "YXa0T29"]),
  (["hmng", "pahawhhmong"], .decode [
    "Ywu0Y5A9161K5I"]),
  (["palm", "palmyrene"], .decode [
    "YYZ0V"]),
  (["pauc", "paucinhau"], .decode [
    "Ycs0XO"]),
  (["phag", "phagspa"], .decode [
    "XgY0XN"]),
  (["phnx", "phoenician"], .decode [
    "YYe0R30"]),
  (["phlp", "psalterpahlavi"], .decode [
    "YYy0H73C6"]),
  (["rjng", "rejang"], .decode [
    "XgfGX3B0"]),
  (["runr", "runic"], .decode [
    "br0YA3A"]),
  (["samr", "samaritan"], .decode [
    "YW0XD2E"]),
  (["saur", "saurashtra"], .decode [
    "Xga0Y58B"]),
  (["shrd", "sharada"], .decode [
    "Yai0YV"]),
  (["shaw", "shavian"], .decode [
    "YXYGXF"]),
  (["sidd", "siddham"], .decode [
    "Ybi0XL2X5"]),
  (["sgnw", "signwriting"], .decode [
    "ZsW0qBF41E"]),
  (["sinh", "sinhala"], .decode [
    "Zi121H3N181026304510176922YW_CJ"]),
  (["sogd", "sogdian"], .decode [
    "YZvGX9"]),
  (["sora", "sorasompeng"], .decode [
    "YacGO79"]),
  (["soyo", "soyombo"], .decode [
    "YcoGYI"]),
  (["sund", "sundanese"], .decode [
    "cy0XVe07"]),
  (["sunu", "sunuwar"], .decode [
    "Yc-0X1E9"]),
  (["sylo", "sylotinagri"], .decode [
    "XgW0XC"]),
  (["syrc", "syriac"], .decode [
    "Xu0D1XR22eGA"]),
  (["tglg", "tagalog"], .decode [
    "bu0L90"]),
  (["tagb", "tagbanwa"], .decode [
    "bx0C1211"]),
  (["tale", "taile"], .decode [
    "cgGT24"]),
  (["lana", "taitham"], .decode [
    "cn0XU1S2A696D"]),
  (["tavt", "taiviet"], .decode [
    "Xgq0Y2O4"]),
  (["takr", "takri"], .decode [
    "Ybq0XP69"]),
  (["taml", "tamil"], .decode [
    "Yy2115321331101131323B4432132060EKYa-5XHD0"]),
  (["tnsa", "tangsa"], .decode [
    "YwpGYE19"]),
  (["tang", "tangut"], .decode [
    "Yx_00Vb_N8tVm08"]),
  (["telu", "telugu"], .decode [
    "ZW0C121M1F281213711220232978"]),
  (["thaa", "thaana"], .decode [
    "Xy0XH"]),
  (["thai"], .decode [
    "Zm1XP5R"]),
  (["tibt", "tibetan"], .decode [
    "Zu0Y71X34X61X31E1641"]),
  (["tfng", "tifinagh"], .decode [
    "hfGXN71E0"]),
  (["tirh", "tirhuta"], .decode [
    "Yba0Y789"]),
  (["todr", "todhri"], .decode [
    "YXk0XJ"]),
  (["toto"], .decode [
    "ZuqGU"]),
  (["tutg", "tulutigalari"], .decode [
    "Yay0910201X519102013191181"]),
  (["ugar", "ugaritic"], .decode [
    "YWy0T10"]),
  (["vai", "vaii"], .decode [
    "Xfe0fB"]),
  (["vith", "vithkuqi"], .decode [
    "YXhGA1E16111A1E1611"]),
  (["wcho", "wancho"], .decode [
    "Zus0XP50"]),
  (["wara", "warangciti"], .decode [
    "Ycb0YIC0"]),
  (["yezi", "yezidi"], .decode [
    "YZq0X91221"]),
  (["yi", "yiii"], .decode [
    "XeW0XaC3XM"]),
  (["zanb", "zanabazarsquare"], .decode [
    "Ycm0Y7"])]

/-- The scripts by name whose characters are not theirs alone, with all characters that they use. -/
def scriptExtensions : List (List String × RangeSet) := [
  (["adlm", "adlam"], .decode [
    "XmV0X00cmE0ZlH0ZkrUYB4941"]),
  (["arab", "arabic"], .decode [
    "Xm041cM1X1YGXFdGU115YA1SbwF0ZlH0XpeEZIGjS2XL70X0FZG41a6_3RYx4UY32XN3Xtu031Q111020191310106040101012111020101",
    "0101011102316131310191G52141GXK1"]),
  (["armn", "armenian"], .decode [
    "u80n8X52XH22Xzi34"]),
  (["avst", "avestan"], .decode [
    "bN0hhO1XtcEXL36"]),
  (["beng", "bengali"], .decode [
    "rS0XqK1H1Q317212L1610332821238041142OasH01021108080204022XY_P0"]),
  (["bopo", "bopomofo"], .decode [
    "s7012D0G1heL2491CA32060c309XAZGVXpa51eQ4"]),
  (["bugi", "buginese"], .decode [
    "cm0R21XZzF0"]),
  (["buhd", "buhid"], .decode [
    "bvL19J"]),
  (["cari", "carian"], .decode [
    "bN0dz2020ZkJ0XrZEXG"]),
  (["aghb", "caucasianalbanian"], .decode [
    "u40XC0XC0YWkHXJB0"]),
  (["cakm", "chakma"], .decode [
    "Yl69XoG9YWbMXK1H"]),
  (["cher", "cherokee"], .decode [
    "u021061M1B1aZEYL25XbxIYF"]),
  (["zyyy", "common"], .decode [
    "0Y0Q5QXE1B1114N0V0k12191030181015542JZU06010pT0cN0m40XgS0iL3aX7B2X01U1911161A3A1EHX0XVX512251Q1GX924qPMALyVe",
    "0pJ2V1Z8m0M1N2913101Pj2030D0D0L0mHNV0XHEC3b195YVV0ck0XVse8PZ62-G0E1qr49MK2B1I13aJ01VQ5Q5ZV616A4iICXJXCXom3dP",
    "6jJaSZJXSdLAX62XT3G817T4XScLJCJCYMR6a7YK1Y6112021231B10161Y01327161R131410361gJ2f32XHbZHY3YCXSs2XB4Z3CE2E1E1",
    "X4AbDXOP11DXB48N5aQ-N4G3C3ZM4YU6B40FB4XN896X78T2B41XUgJCD2C395XN7E2A687aI1Z5uXW70UYV"]),
  (["copt", "qaac", "coptic"], .decode [
    "bN0o803110ZC1ZCDgaGZJ56eN0Xrc8R"]),
  (["cprt", "cypriot"], .decode [
    "YWe024XC38Xs05201XB113020"]),
  (["cpmn", "cyprominoan"], .decode [
    "YWe01hqEZ2"]),
  (["cyrl", "cyrillic"], .decode [
    "rS0Y321010102050dEfFbwGAb00YC0ZV0Z_7VY30z_SYVryE1Xum0XTX10"]),
  (["deva", "devanagari"], .decode [
    "rS0Xo3YI2XAawGX611_M0XXvV9b6Vym09"]),
  (["dogr", "dogra"], .decode [
    "Yh4BXds09x-6XR"]),
  (["dupl", "duployan"], .decode [
    "bN0oF110O1guN0ZZk3ZA5C387927"]),
  (["elba", "elbasan"], .decode [
    "bN0oD0YWlQX7"]),
  (["ethi", "ethiopic"], .decode [
    "uE0ZtHY8132610132X8132X0132610132E1XO132Y22V3Pcl6M9616161616161616_f2525259616YlbH613111E"]),
  (["gara", "garay"], .decode [
    "XmC0E030YXv0X53S81"]),
  (["geor", "georgian"], .decode [
    "bN0XcH0YuMX510502XFYyGXA22yQ0Zb5X51050e30"]),
  (["glag", "glagolitic"], .decode [
    "bN0oB010hU020e10YxH0ZwU0Yz5YVl30-XB0YkiG61G261114"]),
  (["goth", "gothic"], .decode [
    "bN0oC120X80X__UQ"]),
  (["gran", "grantha"], .decode [
    "YgH1H1q0DacS011U231_M0XymF317212L1611141921222060562634ZYR110"]),
  (["grek", "greek"], .decode [
    "bN0o81201010A0XE020XA72310401012101J1XUEFcf64XI444YK2fUL252X525271010101U2XK1E1D251I2218YU0c80XYnU0rkQYEH0Xq",
    "YVY5"]),
  (["gujr", "gujarati"], .decode [
    "YgH1H1eR218121L16111429121220F32B76XdfG9"]),
  (["gong", "gunjalagondi"], .decode [
    "bN0YbC1Ya_Q5111X4111579"]),
  (["guru", "gurmukhi"], .decode [
    "YgH1H1aR215412L16111111201441223073107GXdjP9"]),
  (["gukh", "gurungkhema"], .decode [
    "Yh50YryQXP"]),
  (["han", "hani"], .decode [
    "bN0hk8P1YOCcLQF121C1C1C2068bR0aKFX0X590XGX7XOXGFBXJ0YOOA4Z0U1cjVY0qlVXu07qlOhD2Z9xB1eQ4yZS1C1uxEHdsU1ZjEXfsV",
    "X0aXP6cT2bq1EdfGFpDYj2mTXl2awA5aYV"]),
  (["hang", "hangul"], .decode [
    "ae0dVdm12491CE260c30XLYTZHUY1Uzt1Sq3gz3CM4XGfo91eQ4XQU35252522"]),
  (["rohg", "hanifirohingya"], .decode [
    "XmC0E030X00aJ0YXnBX789"]),
  (["hano", "hanunoo"], .decode [
    "bv0M"]),
  (["hebr", "hebrew"], .decode [
    "u71q8XM8Q45Xzf8P1410111119"]),
  (["hira", "hiragana"], .decode [
    "iW12491CG510413YL27YQ1Xpg81eQ4A0XD1XiZ1eUI0T2mbD0"]),
  (["qaai", "zinh", "inherited"], .decode [
    "uF0201B1136202F111H1413XlG1agRUtJXL1014mC1c2VXteGFGD-F0Xpe2XD2Mn02H726U3uhwIdF"]),
  (["java", "javanese"], .decode [
    "Xgi0YD1A41"]),
  (["kthi", "kaithi"], .decode [
    "Yh69fc10-lU9wY6Y2A0"]),
  (["knda", "kannada"], .decode [
    "YgH1H1uQC121M19142812137161132912Z-S01160N010XYvR5"]),
  (["kana", "katakana"], .decode [
    "u50T0hcT2491CG51041YR33YVdGFcGXE1YNXotD1eQXUXiYG3161110eV2XI0E3"]),
  (["kali", "kayahli"], .decode [
    "Xge0XF"]),
  (["khoj", "khojki"], .decode [
    "Yt69Xdg09wk6H1XE"]),
  (["sind", "khudawadi"], .decode [
    "Yh41XdsA9wpMXQ59"]),
  (["latn", "latin"], .decode [
    "Y1P6PXF0C0205M1U1k030A01210901064RE1110C0227111X60504CeL1XcA1Xz80ZW4X56XG535C1Y5XP07dVfF0Y10D0GCYJ0XP160R0HX",
    "8YsNViN0-d87QZ53Y2211017LDfE0m1XA1813pyM6XWQP6PYX551X918Xrw5U65"]),
  (["limb", "limbu"], .decode [
    "Yh50ZyQU1B4B403B"]),
  (["lina", "lineara"], .decode [
    "YWe7XCXcCfM9LA7"]),
  (["linb", "linearb"], .decode [
    "YWW0B1P1I111E2DX2ZQ524XC38"]),
  (["lisu"], .decode [
    "rS0G0hfS1zc4XF-rG0"]),
  (["lyci", "lycian"], .decode [
    "eYQ0Xun5S"]),
  (["lydi", "lydian"], .decode [
    "bN0hhP0XstEP50"]),
  (["mahj", "mahajani"], .decode [
    "bN0YbCBXds09weMX6"]),
  (["mlym", "malayalam"], .decode [
    "YgH1H1yQC121XI12154F2PZwQ0N0XYvT2"]),
  (["mand", "mandaic"], .decode [
    "Xo00lVR20"]),
  (["mani", "manichaean"], .decode [
    "Xo00YXZVX64B"]),
  (["gonm", "masaramgondi"], .decode [
    "Yh41YayQ6111XB30111889"]),
  (["mero", "meroitichieroglyphs"], .decode [
    "eYT0Xwf2V"]),
  (["modi"], .decode [
    "XgXG9xk6Y4B9"]),
  (["mong", "mongolian"], .decode [
    "cW0P6YO7XAXy40Z-H153XvoKC"]),
  (["mult", "multani"], .decode [
    "Yp69YYWG610131E1A"]),
  (["mymr", "myanmar"], .decode [
    "aW0aVXcaE0bHUZ1VxYGJ"]),
  (["nand", "nandinagari"], .decode [
    "Yh41y09Z_P08070XYvL5yhA72XD2A"]),
  (["nko", "nkoo"], .decode [
    "XmC0E030j0XQ22XzfU1"]),
  (["onao", "olonal"], .decode [
    "Yh41ZtZAXA40"]),
  (["hung", "oldhungarian"], .decode [
    "eYQ020ZkJ0F0XtnUXIDXI75"]),
  (["perm", "oldpermic"], .decode [
    "bN0o8052A0hF0X_sCXA"]),
  (["orkh", "oldturkic"], .decode [
    "eYQ0ZkL0XtkFY8"]),
  (["ougr", "olduyghur"], .decode [
    "Xo00YXbH0XZTP"]),
  (["orya", "oriya"], .decode [
    "YgH1H1iR217212L1611142821227241142Hah20N0"]),
  (["osge", "osage"], .decode [
    "u102060YC0YWgNX34X3"]),
  (["phag", "phagspa"], .decode [
    "cW2110YX90Z-I0-XTXN"]),
  (["phlp", "psalterpahlavi"], .decode [
    "Xo00YXfVH73C6"]),
  (["runr", "runic"], .decode [
    "br0YO"]),
  (["samr", "samaritan"], .decode [
    "YW0XD2EflI0"]),
  (["shrd", "sharada"], .decode [
    "YgH0ay50102120XYwF520wg7YV"]),
  (["shaw", "shavian"], .decode [
    "bN0YWyOXF"]),
  (["sinh", "sinhala"], .decode [
    "Yh41XWR21H3N181026304510176922ZtT0XzdEJ"]),
  (["sogd", "sogdian"], .decode [
    "Xo00YYdFX9"]),
  (["sunu", "sunuwar"], .decode [
    "u01109020S030YcaEX1E9"]),
  (["sylo", "sylotinagri"], .decode [
    "Yh41a09XdmGXC"]),
  (["syrc", "syriac"], .decode [
    "u312110L0227110sR0E120X00AAQ0aFD1XR22eGAbiD010"]),
  (["tglg", "tagalog"], .decode [
    "bu0L90L1"]),
  (["tagb", "tagbanwa"], .decode [
    "bvL1X9C1211"]),
  (["tale", "taile"], .decode [
    "u015130ZfJ9Ye6T24"]),
  (["takr", "takri"], .decode [
    "Yh41XdsA9xo6XP69"]),
  (["taml", "tamil"], .decode [
    "YgH1H1mS115321331101131323B4432132060EKacV0XZWO0wmD010XN1Za3XHD0"]),
  (["tang", "tangut"], .decode [
    "h_GFlF0YllG0Vb_N8tVm08"]),
  (["telu", "telugu"], .decode [
    "YgH1H1qQC121M1F281213711220232978aYQ0N0"]),
  (["thaa", "thaana"], .decode [
    "XmC0E120Y09eMXHXzo00A0"]),
  (["thai"], .decode [
    "rS0Q0XB0XD0YsFXP5R"]),
  (["tibt", "tibetan"], .decode [
    "Zu0Y71X34X61X31E1641eXD3"]),
  (["tfng", "tifinagh"], .decode [
    "u20102010gn6XN71E0"]),
  (["tirh", "tirhuta"], .decode [
    "YgH1H1ayC0XYvT9xY6Y789"]),
  (["todr", "todhri"], .decode [
    "u1020209010YA0YWp1XJ"]),
  (["toto"], .decode [
    "rS0Zt-JU"]),
  (["tutg", "tulutigalari"], .decode [
    "Zd69aW2010XYvR5bR0wqE910201X519102013191181"]),
  (["yezi", "yezidi"], .decode [
    "XmC0E030Y09YYWMX91221"]),
  (["yi", "yiii"], .decode [
    "iW115927cV0xu4XaC3XMsqQ4"])]

def script? (name : String) : Option RangeSet := (scripts.find? (·.1.contains name)).map Prod.snd

def scriptExtension? (name : String) : Option RangeSet :=
  match scriptExtensions.find? (·.1.contains name) with
  | some (_, set) => some set
  | none => script? name

end JsonSchema.Unicode
