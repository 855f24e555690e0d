import ContentFilter.Unicode.Category

/-!
The script of a code point, and the scripts that it is used in. A script is known by a code of four
letters.
-/

namespace ContentFilter.Unicode

/-- The codes of the scripts with their names. -/
def scriptNames : List (String × String) :=
  [
    ("Adlm", "adlam"), ("Aghb", "caucasianalbanian"), ("Ahom", "ahom"), ("Arab", "arabic"),
    ("Armi", "imperialaramaic"), ("Armn", "armenian"), ("Avst", "avestan"), ("Bali", "balinese"),
    ("Bamu", "bamum"), ("Bass", "bassavah"), ("Batk", "batak"), ("Beng", "bengali"),
    ("Bhks", "bhaiksuki"), ("Bopo", "bopomofo"), ("Brah", "brahmi"), ("Brai", "braille"),
    ("Bugi", "buginese"), ("Buhd", "buhid"), ("Cakm", "chakma"), ("Cans", "canadianaboriginal"),
    ("Cari", "carian"), ("Cham", "cham"), ("Cher", "cherokee"), ("Chrs", "chorasmian"),
    ("Copt", "coptic"), ("Cpmn", "cyprominoan"), ("Cprt", "cypriot"), ("Cyrl", "cyrillic"),
    ("Deva", "devanagari"), ("Diak", "divesakuru"), ("Dogr", "dogra"), ("Dsrt", "deseret"),
    ("Dupl", "duployan"), ("Egyp", "egyptianhieroglyphs"), ("Elba", "elbasan"),
    ("Elym", "elymaic"), ("Ethi", "ethiopic"), ("Geor", "georgian"), ("Glag", "glagolitic"),
    ("Gong", "gunjalagondi"), ("Gonm", "masaramgondi"), ("Goth", "gothic"), ("Gran", "grantha"),
    ("Grek", "greek"), ("Gujr", "gujarati"), ("Guru", "gurmukhi"), ("Hang", "hangul"),
    ("Hani", "han"), ("Hano", "hanunoo"), ("Hatr", "hatran"), ("Hebr", "hebrew"),
    ("Hira", "hiragana"), ("Hluw", "anatolianhieroglyphs"), ("Hmng", "pahawhhmong"),
    ("Hmnp", "nyiakengpuachuehmong"), ("Hung", "oldhungarian"), ("Ital", "olditalic"),
    ("Java", "javanese"), ("Kali", "kayahli"), ("Kana", "katakana"), ("Kawi", "kawi"),
    ("Khar", "kharoshthi"), ("Khmr", "khmer"), ("Khoj", "khojki"), ("Kits", "khitansmallscript"),
    ("Knda", "kannada"), ("Kthi", "kaithi"), ("Lana", "taitham"), ("Laoo", "lao"),
    ("Latn", "latin"), ("Lepc", "lepcha"), ("Limb", "limbu"), ("Lina", "lineara"),
    ("Linb", "linearb"), ("Lisu", "lisu"), ("Lyci", "lycian"), ("Lydi", "lydian"),
    ("Mahj", "mahajani"), ("Maka", "makasar"), ("Mand", "mandaic"), ("Mani", "manichaean"),
    ("Marc", "marchen"), ("Medf", "medefaidrin"), ("Mend", "mendekikakui"),
    ("Merc", "meroiticcursive"), ("Mero", "meroitichieroglyphs"), ("Mlym", "malayalam"),
    ("Modi", "modi"), ("Mong", "mongolian"), ("Mroo", "mro"), ("Mtei", "meeteimayek"),
    ("Mult", "multani"), ("Mymr", "myanmar"), ("Nagm", "nagmundari"), ("Nand", "nandinagari"),
    ("Narb", "oldnortharabian"), ("Nbat", "nabataean"), ("Newa", "newa"), ("Nkoo", "nko"),
    ("Nshu", "nushu"), ("Ogam", "ogham"), ("Olck", "olchiki"), ("Orkh", "oldturkic"),
    ("Orya", "oriya"), ("Osge", "osage"), ("Osma", "osmanya"), ("Ougr", "olduyghur"),
    ("Palm", "palmyrene"), ("Pauc", "paucinhau"), ("Perm", "oldpermic"), ("Phag", "phagspa"),
    ("Phli", "inscriptionalpahlavi"), ("Phlp", "psalterpahlavi"), ("Phnx", "phoenician"),
    ("Plrd", "miao"), ("Prti", "inscriptionalparthian"), ("Rjng", "rejang"),
    ("Rohg", "hanifirohingya"), ("Runr", "runic"), ("Samr", "samaritan"),
    ("Sarb", "oldsoutharabian"), ("Saur", "saurashtra"), ("Sgnw", "signwriting"),
    ("Shaw", "shavian"), ("Shrd", "sharada"), ("Sidd", "siddham"), ("Sind", "khudawadi"),
    ("Sinh", "sinhala"), ("Sogd", "sogdian"), ("Sogo", "oldsogdian"), ("Sora", "sorasompeng"),
    ("Soyo", "soyombo"), ("Sund", "sundanese"), ("Sylo", "sylotinagri"), ("Syrc", "syriac"),
    ("Tagb", "tagbanwa"), ("Takr", "takri"), ("Tale", "taile"), ("Talu", "newtailue"),
    ("Taml", "tamil"), ("Tang", "tangut"), ("Tavt", "taiviet"), ("Telu", "telugu"),
    ("Tfng", "tifinagh"), ("Tglg", "tagalog"), ("Thaa", "thaana"), ("Thai", "thai"),
    ("Tibt", "tibetan"), ("Tirh", "tirhuta"), ("Tnsa", "tangsa"), ("Toto", "toto"),
    ("Ugar", "ugaritic"), ("Vaii", "vai"), ("Vith", "vithkuqi"), ("Wara", "warangciti"),
    ("Wcho", "wancho"), ("Xpeo", "oldpersian"), ("Xsux", "cuneiform"), ("Yezi", "yezidi"),
    ("Yiii", "yi"), ("Zanb", "zanabazarsquare"), ("Zinh", "inherited"), ("Zyyy", "common"),
    ("Gara", "garay"), ("Gukh", "gurungkhema"), ("Krai", "kiratrai"), ("Onao", "olonal"),
    ("Sunu", "sunuwar"), ("Todr", "todhri"), ("Tutg", "tulutigalari")]

def scriptText : List String :=
  [
    "Zyyy65 Latn26 Zyyy6 Latn26 Zyyy47 Latn Zyyy15 Latn Zyyy5 Latn23 Zyyy Latn31 Zyyy",
    "Latn449 Zyyy39 Latn5 Zyyy5 Bopo2 Zyyy20 Zinh112 Grek4 Zyyy Grek9 Zyyy Grek6 Zyyy Grek",
    "Zyyy Grek90 Copt14 Grek16 Cyrl133 Zinh2 Cyrl170 Armn96 Hebr111 Arab5 Zyyy Arab6 Zyyy",
    "Arab14 Zyyy Arab3 Zyyy Arab32 Zyyy Arab10 Zinh11 Arab26 Zinh Arab108 Zyyy Arab34 Syrc80",
    "Arab48 Thaa64 Nkoo64 Samr64 Mand32 Syrc16 Arab114 Zyyy Arab29 Deva81 Zinh4 Deva15 Zyyy2",
    "Deva26 Beng129 Guru128 Gujr128 Orya129 Taml126 Telu128 Knda128 Mlym129 Sinh128 Thai62",
    "Zyyy Thai65 Laoo127 Tibt213 Zyyy4 Tibt39 Mymr160 Geor91 Zyyy Geor4 Hang256 Ethi416",
    "Cher96 Cans640 Ogam32 Runr75 Zyyy3 Runr18 Tglg32 Hano21 Zyyy11 Buhd32 Tagb32 Khmr128",
    "Mong2 Zyyy2 Mong Zyyy Mong170 Cans80 Limb80 Tale48 Talu96 Khmr32 Bugi32 Lana144 Zinh80",
    "Bali128 Sund64 Batk64 Lepc80 Olck48 Cyrl16 Geor48 Sund16 Zinh3 Zyyy Zinh13 Zyyy Zinh7",
    "Zyyy4 Zinh Zyyy6 Zinh Zyyy3 Zinh2 Zyyy6 Latn38 Grek5 Cyrl Latn49 Grek5 Latn4 Grek5",
    "Latn13 Cyrl Latn70 Grek Zinh64 Latn256 Grek256 Zyyy12 Zinh2 Zyyy99 Latn3 Zyyy11 Latn",
    "Zyyy16 Latn16 Zyyy48 Zinh48 Zyyy38 Grek Zyyy3 Latn2 Zyyy6 Latn Zyyy27 Latn Zyyy17",
    "Latn41 Zyyy1655 Brai256 Zyyy768 Glag96 Latn32 Copt128 Geor48 Tfng80 Ethi96 Cyrl32",
    "Zyyy128 Hani368 Zyyy21 Hani Zyyy Hani Zyyy25 Hani9 Zinh4 Hang2 Zyyy8 Hani4 Zyyy5 Hira88",
    "Zinh2 Zyyy2 Hira3 Zyyy Kana90 Zyyy2 Kana8 Bopo44 Hang95 Zyyy16 Bopo32 Zyyy48 Kana16",
    "Hang32 Zyyy64 Hang31 Zyyy81 Kana47 Zyyy Kana88 Zyyy168 Hani6592 Zyyy64 Hani20992",
    "Yiii1232 Lisu48 Vaii320 Cyrl96 Bamu96 Zyyy34 Latn102 Zyyy3 Latn117 Sylo48 Zyyy16 Phag64",
    "Saur96 Deva32 Kali46 Zyyy Kali Rjng48 Hang32 Java79 Zyyy Java16 Mymr32 Cham96 Mymr32",
    "Tavt96 Mtei33 Ethi47 Latn43 Zyyy Latn9 Grek Latn4 Zyyy6 Cher80 Mtei64 Hang11264",
    "Zzzz8448 Hani512 Latn19 Armn10 Hebr51 Arab494 Zyyy2 Arab192 Zinh16 Zyyy16 Zinh14 Cyrl2",
    "Zyyy64 Arab143 Zyyy34 Latn26 Zyyy6 Latn26 Zyyy11 Kana10 Zyyy Kana45 Zyyy2 Hang64 Zyyy32",
    "Linb256 Zyyy64 Grek80 Zyyy16 Grek48 Zyyy45 Zinh131 Lyci32 Cari64 Zinh Zyyy31 Ital48",
    "Goth32 Perm48 Ugar32 Xpeo96 Dsrt80 Shaw48 Osma48 Osge80 Elba48 Aghb64 Vith80 Todr64",
    "Lina384 Latn128 Cprt64 Armi32 Palm32 Nbat96 Hatr32 Phnx32 Lydi96 Mero32 Merc96 Khar96",
    "Sarb32 Narb64 Mani64 Avst64 Prti32 Phli32 Phlp128 Orkh128 Hung128 Rohg64 Gara288 Arab32",
    "Yezi66 Arab62 Sogo48 Sogd64 Ougr64 Chrs48 Elym32 Brah128 Kthi80 Sora48 Cakm80 Mahj48",
    "Shrd97 Sinh31 Khoj128 Mult48 Sind80 Gran59 Zinh Gran68 Tutg128 Newa128 Tirh256 Sidd128",
    "Modi96 Mong32 Takr80 Mymr48 Ahom256 Dogr160 Wara96 Diak160 Nand96 Zanb80 Soyo96 Cans16",
    "Pauc64 Deva192 Sunu64 Bhks112 Marc144 Gonm96 Gong384 Maka32 Kawi176 Lisu16 Taml64",
    "Xsux3984 Cpmn112 Egyp5120 Hluw7424 Gukh1792 Bamu576 Mroo48 Tnsa96 Bass48 Hmng576",
    "Krai256 Medf192 Plrd224 Tang Nshu Hani2 Kits12 Hani16 Tang6912 Kits512 Tang8944 Kana17",
    "Hira287 Kana18 Hira35 Kana27 Nshu2704 Dupl160 Zyyy4704 Zinh80 Zyyy535 Zinh3 Zyyy17",
    "Zinh8 Zyyy2 Zinh7 Zyyy30 Zinh4 Zyyy82 Grek192 Zyyy1344 Sgnw1792 Latn256 Glag48 Cyrl208",
    "Hmnp400 Toto48 Wcho528 Nagm256 Onao528 Ethi32 Mend256 Adlm881 Zyyy399 Arab512 Zyyy512",
    "Hira Zyyy3583 Hani786433 Zyyy255 Zinh65280 Zzzz131072"]

def scriptRuns : Array (Run String) := runs String.ofList scriptText

/-- The script of a code point that is assigned. -/
def script? (n : Nat) : Option String := if isAssigned n then nameAt? scriptRuns n else none

/-- Code points that are used in other scripts than their own, with the codes of those. -/
def extensionText : List String :=
  [
    "B7=AvstCariCoptDuplElbaGeorGlagGongGothGrekHaniLatnLydiMahjPermShaw",
    "2BC=BengCyrlDevaLatnLisuThaiToto 2C7=BopoLatn 2C9-2CB=BopoLatn 2CD=LatnLisu",
    "2D7=LatnThai 2D9=BopoLatn 300=CherCoptCyrlGrekLatnPermSunuTale",
    "301=CherCyrlGrekLatnOsgeSunuTaleTodr 302=CherCyrlLatnTfng 303=GlagLatnSunuSyrcThai",
    "304=AghbCherCoptCyrlGothGrekLatnOsgeSyrcTfngTodr 305=CoptElbaGlagGothKanaLatn",
    "306=CyrlGrekLatnPermTfng 307=CoptDuplHebrLatnPermSyrcTaleTfngTodr",
    "308=ArmnCyrlDuplGothGrekHebrLatnPermSyrcTaleTfng 309=LatnTfng 30A=DuplLatnSyrc",
    "30B=CherCyrlLatnOsge 30C=CherLatnTale 30D=LatnSunu 30E=EthiLatn 310=LatnSunu",
    "311=CyrlLatnTodr 313=GrekLatnPermTodr 323=CherDuplKanaLatnSyrcTfng 324=CherDuplLatnSyrc",
    "325=LatnSyrc 32D=LatnSunuSyrc 32E=LatnSyrc 330=CherLatnSyrc",
    "331=AghbCherGothLatnSunuSyrcThai 342=Grek 345=Grek 358=LatnOsge 35E=AghbLatnTodr",
    "363-36F=Latn 374-375=CoptGrek 483=CyrlPerm 484=CyrlGlag 485-486=CyrlLatn 487=CyrlGlag",
    "589=ArmnGeorGlag 60C=ArabGaraNkooRohgSyrcThaaYezi 61B=ArabGaraNkooRohgSyrcThaaYezi",
    "61C=ArabSyrcThaa 61F=AdlmArabGaraNkooRohgSyrcThaaYezi",
    "640=AdlmArabMandManiOugrPhlpRohgSogdSyrc 64B-655=ArabSyrc 660-669=ArabThaaYezi",
    "670=ArabSyrc 6D4=ArabRohg",
    "951=BengDevaGranGujrGuruKndaLatnMlymNandNewaOryaShrdTamlTeluTirh",
    "952=BengDevaGranGujrGuruKndaLatnMlymNewaOryaTamlTeluTirh",
    "964=BengDevaDogrGongGonmGranGujrGuruKndaMahjMlymNandOnaoOryaSindSinhSyloTakrTamlTeluTirh",
    "965=BengDevaDogrGongGonmGranGujrGukhGuruKndaLimbMahjMlymNandOnaoOryaSindSinhSyloTakrTamlTeluTirh",
    "966-96F=DevaDogrKthiMahj 9E6-9EF=BengCakmSylo A66-A6F=GuruMult AE6-AEF=GujrKhoj",
    "BE6-BF3=GranTaml CE6-CEF=KndaNandTutg 1040-1049=CakmMymrTale 10FB=GeorGlagLatn",
    "16EB-16ED=Runr 1735-1736=BuhdHanoTagbTglg 1802-1803=MongPhag 1805=MongPhag",
    "1CD0=BengDevaGranKnda 1CD1=Deva 1CD2=BengDevaGranKnda 1CD3=DevaGranKnda 1CD4=Deva",
    "1CD5=BengDevaNewaTeluTirh 1CD6=BengDevaTelu 1CD7=DevaNewaShrd 1CD8=BengDevaNewaTelu",
    "1CD9=DevaShrd 1CDA=DevaKndaMlymOryaTamlTelu 1CDB=Deva 1CDC-1CDD=DevaShrd 1CDE-1CDF=Deva",
    "1CE0=DevaShrd 1CE1=BengDeva 1CE2=DevaNewaTirh 1CE3-1CE8=Deva 1CE9=DevaNandNewa",
    "1CEA=BengDevaShrd 1CEB=DevaNewa 1CEC=Deva 1CED=BengDevaNewaShrd 1CEE-1CF1=Deva",
    "1CF2=BengDevaGranKndaMlymNandOryaSinhTeluTirhTutg 1CF3=DevaGran 1CF4=DevaGranKndaTutg",
    "1CF5-1CF6=BengDeva 1CF7=Beng 1CF8-1CF9=DevaGran 1CFA=Nand 1DC0-1DC1=Grek",
    "1DF8=CyrlLatnSyrc 1DFA=Syrc 202F=LatnMongPhag 204F=AdlmArab",
    "205A=CariGeorGlagHungLyciOrkh 205D=CariGrekHungMero 20F0=DevaGranLatn 2E17=CoptLatn",
    "2E30=AvstOrkh 2E31=AvstCariGeorHungKthiLydiSamr 2E3C=Dupl 2E41=AdlmArabHung",
    "2E43=CyrlGlag 2FF0-2FFF=HaniTang 3001=BopoHangHaniHiraKanaMongYiii",
    "3002=BopoHangHaniHiraKanaMongPhagYiii 3003=BopoHangHaniHiraKana 3006=Hani",
    "3008-3009=BopoHangHaniHiraKanaMongTibtYiii",
    "300A-300B=BopoHangHaniHiraKanaLisuMongTibtYiii 300C-3011=BopoHangHaniHiraKanaYiii",
    "3013=BopoHangHaniHiraKana 3014-301B=BopoHangHaniHiraKanaYiii",
    "301C-301F=BopoHangHaniHiraKana 302A-302D=BopoHani 3030=BopoHangHaniHiraKana",
    "3031-3035=HiraKana 3037=BopoHangHaniHiraKana 303C-303D=HaniHiraKana 303E-303F=Hani",
    "3099-309C=HiraKana 30A0=HiraKana 30FB=BopoHangHaniHiraKanaYiii 30FC=HiraKana",
    "3190-319F=Hani 31C0-31E5=Hani 31EF=HaniTang 3220-3247=Hani 3280-32B0=Hani",
    "32C0-32CB=Hani 32FF=Hani 3358-3370=Hani 337B-337F=Hani 33E0-33FE=Hani A66F=CyrlGlag",
    "A700-A707=HaniLatn",
    "A830-A832=DevaDogrGujrGuruKhojKndaKthiMahjMlymModiNandShrdSindTakrTirhTutg",
    "A833-A835=DevaDogrGujrGuruKhojKndaKthiMahjModiNandShrdSindTakrTirhTutg",
    "A836-A837=DevaDogrGujrGuruKhojKthiMahjModiSindTakrTirh",
    "A838=DevaDogrGujrGuruKhojKthiMahjModiShrdSindTakrTirh",
    "A839=DevaDogrGujrGuruKhojKthiMahjModiSindTakrTirh A8F1=BengDevaTutg A8F3=DevaTaml",
    "A92E=KaliLatnMymr A9CF=BugiJava FD3E-FD3F=ArabNkoo FDF2=ArabThaa FDFD=ArabThaa",
    "FE45-FE46=BopoHangHaniHiraKana FF61-FF65=BopoHangHaniHiraKanaYiii FF70=HiraKana",
    "FF9E-FF9F=HiraKana 10100-10101=CpmnCprtLinb 10102=CprtLinb 10107-10133=CprtLinaLinb",
    "10137-1013F=CprtLinb 102E0-102FB=ArabCopt 10AF2=ManiOugr 11301=GranTaml 11303=GranTaml",
    "1133B-1133C=GranTaml 11FD0-11FD1=GranTaml 11FD3=GranTaml 1BCA0-1BCA3=Dupl",
    "1D360-1D371=Hani 1F250-1F251=Hani"]

def scriptCodes : List Char → List String
  | a :: b :: c :: d :: rest => String.ofList [a, b, c, d] :: scriptCodes rest
  | _ => []

def extensionTable : Array (Span × List String) := entries scriptCodes extensionText

/-- The scripts that a code point is used in. -/
def scriptExtensions (n : Nat) : List String := (valueAt? extensionTable n).getD (script? n).toList

end ContentFilter.Unicode
