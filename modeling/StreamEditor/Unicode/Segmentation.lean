/-
# Break classes of Unicode characters

Text is cut into grapheme clusters, words and sentences by classes of its characters, one
partition of the code points for each kind of cut. The module holds the three, packed.

Key definitions: `Segmentation.grapheme`, `Segmentation.word`, `Segmentation.sentence`.
-/
import StreamEditor.Unicode.Packed

namespace StreamEditor
namespace Unicode
namespace Segmentation

/-- The runs of equal grapheme cluster break, packed. -/
def packedGrapheme : String :=
  String.join [
    "ajbaaeabbaaaarbDrBgbnabWwEhcKpgcKdBscbacbbcbbcbacCefhkkcbabBuucqacDxgcaahbfccbcbdcBhahbacBeB",
    "acDnkcCgicjacydcbicbccbecBrccCabhficBqxcaahaBfcaajCcacaajaacbcjahcadjaacabjbgckbcBdacabjCeac",
    "bacabjadccbjcbjaacjackbcBaaccbcaajCeacbcjabcebccccdacBebcdaclbcaajCeacbcjaecbbcaajbbjaacubcw",
    "fcbacabjCeacbbcaajadccbjcbjaachcckbcBeacChacaajaacabjdcjbcjaacjacBoacacjaacCdacbccadjbccbdch",
    "bclbcBdacabjCeacbajabcaajaacabjbccbdchbclbcpajmbcabjCdbcbacabjadcbcjbcjaacaahiackbcBdacabjCs",
    "aceacabjaccbacbgjaacsbjCjacbajagcmhcDuacbajaiclgcCvbcBbacbacbacebjBxncaajaecbbcfkcbBjcjacDyd",
    "caajafcbbcabjabcxbjabceccqdcnacbajabcgacpacDuDrdaCtlaDjkNlccBKkdcBcccBdbcBebcCmbcaajagcahjaa",
    "cabjakcjacBtccaabaacEnbcBiacEoccadjabcacjebjaacafjaccIlbcabjaacCfajaacaajagcbacbacchcafjajcc",
    "acBwBecBxdcaajBvjcadjaccBmicmbcaajBeajadcabjafcCeacaajabcacjaacaajaecBwhjahcabjabcFwccbmcaaj",
    "agceacgaccajabcHqClcUdabaacaamabbygbBxpbDsBgcEOcccFlacDsBfcVifcEbbcBSQedcbjcBgbcDcbcKmacdace",
    "acxbjabcaajeacDfbjBypjabcBarcnacBmhczkcaajaacmBcddccaajBvacabjadcabjabcabjaacBkacCpfcabjabca",
    "bjabcmaciacaajBuacBzacbcccbcfbcbacBpajabcabjfajaacJcbjaacabjaacabjbajaacsafaBagaafaBagaafaBa",
    "gaafaBagaafaBagaafaBagaafaBagaafaBagaafaBagaafaBagaafaBagaafaBagaafaBagaafaBagaafaBagaafaBag",
    "aafaBagaafaBagaafaBagaafaBagaafaBagaafaBagaafaBagaafaBagaafaBagaafaBagaafaBagaafaBagaafaBaga",
    "afaBagaafaBagaafaBagaafaBagaafaBagaafaBagaafaBagaafaBagaafaBagaafaBagaafaBagaafaBagaafaBagaa",
    "faBagaafaBagaafaBagaafaBagaafaBagaafaBagaafaBagaafaBagaafaBagaafaBagaafaBagaafaBagaafaBagaaf",
    "aBagaafaBagaafaBagaafaBagaafaBagaafaBagaafaBagaafaBagaafaBagaafaBagaafaBagaafaBagaafaBagaafa",
    "BagaafaBagaafaBagaafaBagaafaBagaafaBagaafaBagaafaBagaafaBagaafaBagaafaBagaafaBagaafaBagaafaB",
    "agaafaBagaafaBagaafaBagaafaBagaafaBagaafaBagaafaBagaafaBagaafaBagaafaBagaafaBagaafaBagaafaBa",
    "gaafaBagaafaBagaafaBagaafaBagaafaBagaafaBagaafaBagaafaBagaafaBagaafaBagaafaBagaafaBagaafaBag",
    "aafaBagaafaBagaafaBagaafaBagaafaBagaafaBagaafaBagaafaBagaafaBagaafaBagaafaBagaafaBagaafaBaga",
    "afaBagaafaBagaafaBagaafaBagaafaBagaafaBagaafaBagaafaBagaafaBagaafaBagaafaBagaafaBagaafaBagaa",
    "faBagaafaBagaafaBagaafaBagaafaBagaafaBagaafaBagaafaBagaafaBagaafaBagaafaBagaafaBagaafaBagaaf",
    "aBagaafaBagaafaBagaafaBagaafaBagaafaBagaafaBagaafaBagaafaBagaafaBagaafaBagaafaBagaafaBagaafa",
    "BagaafaBagaafaBagaafaBagaafaBagaafaBagaafaBagaafaBagaafaBagaafaBagaafaBagaafaBagaafaBagaafaB",
    "agaafaBagaafaBagaafaBagaafaBagaafaBagaafaBagaafaBagaafaBagaafaBagaafaBagaafaBagaafaBagaafaBa",
    "gaafaBagaafaBagaafaBagaafaBagaafaBagaafaBagaafaBagaafaBagaafaBagaafaBagaafaBagaafaBagaafaBag",
    "aafaBagaafaBagaafaBagaafaBagaafaBagaafaBagaafaBagaafaBagaafaBagaafaBagaafaBagaafaBagaafaBaga",
    "afaBagaafaBagaafaBagaafaBagaafaBagaafaBagaafaBagaafaBagaafaBagaafaBagaafaBagaafaBagaafaBagaa",
    "faBagaafaBagaafaBagaafaBagaafaBagaafaBagaafaBagaafaBagaafaBagaafaBagaafaBagaafaBagaafaBagaaf",
    "aBagaafaBagaafaBagaafaBagaafaBagaafaBagaafaBagaafaBagaafaBagaafaBagaafaBagaafaBagaafaBagaafa",
    "BagaafaBagaafaBagaafaBagaafaBagaafaBagaafaBagaafaBagaafaBagaafaBagaafaBagaafaBagaafaBagaafaB",
    "agaafaBagaafaBagaafaBagaafaBagaafaBagaafaBagaafaBagaafaBagaafaBagaafaBagaafaBagaafaBagaafaBa",
    "gaafaBagaafaBagaafaBagaafaBagaafaBagaafaBagaafaBagaafaBagaafaBagaafaBagaafaBagaafaBagaafaBag",
    "aafaBagaafaBagaafaBagaafaBagaafaBagaafaBagaafaBagaafaBagaafaBagaafaBagaafaBagaafaBagaafaBaga",
    "afaBagaafaBagaafaBagaafaBagaafaBagaafaBagaafaBagaafaBagaafaBagaafaBagaafaBagaafaBagaafaBagaa",
    "faBagaafaBagaafaBagaafaBagaafaBagaafaBagaafaBagaafaBagaafaBagaafaBagaafaBagaafaBagaafaBagaaf",
    "aBagaafaBagaafaBagaafaBagaafaBagaafaBagaafaBagaafaBagaafaBagaafaBagaafaBagaafaBagaafaBagaafa",
    "BagaafaBagaafaBagaafaBagaafaBagaafaBagaafaBagaafaBagaafaBagaafaBagaafaBagaafaBagaafaBagaafaB",
    "agaafaBagaafaBagaafaBagaafaBagaafaBagaafaBagaafaBagaafaBagaafaBagaafaBagaafaBagaafaBagaafaBa",
    "gaafaBagaafaBagaafaBagaafaBagaafaBagaafaBagaafaBagaafaBagaafaBagaafaBagaafaBagaafaBagaafaBag",
    "aafaBagaafaBagaafaBagaafaBagaafaBagaafaBagaafaBagaafaBagaafaBagaafaBagaafaBagaafaBagaafaBaga",
    "afaBagaafaBagmwleBwkNHyacBCjpcqpcHzabGcbcDclbTtacIsacFtecCMgccbbcfdcBocceacGjbcWbdcCnecMfbcD",
    "bdcCskcBxdcEsajaacaajCbocBpaccbckccaajBtcjadcabjabccaheackahByccBkecaajahcqbjBsacmbcaajBwcja",
    "icaajaacbbhfdcbajaacDocjaccabjadcgaccacGbacacjahcvbcabjCdbcbacaajaacadjcbjcbjaacjackbjcgcdec",
    "CpacabjafcbaccacbccaajbbjaccaahaacobcDecjahcabjaccaajaacxacDdacabjafcaajaacabjaacaajabcaajab",
    "cJbacabjadccdjabcaajabcBbbcDecjahcabjaacaajabcEcacaajaacabjahcDxacaajaaccdcaajaecJwcjaicaaja",
    "bcJlacaejbbjcdcaahaajaahaajaacFlcjadccbcadjaacdajBcjcBofcaajaahadciacjfcabjaccBofhamcaajabcP",
    "pajagcbfcaajaacDevcbajagcaajabcaajabcEsfcdacbbcbgcaahaacCoejbbcbbjaacaajaacNjbcabjjbcaahaajB",
    "wbjaecdbjaccxacHXdpbaacgocQYylcacjaccDSaecChgcVkalddlSqacbCcjhdcDdaclbcBDAxbcbdbGYuBtccwcUwe",
    "cdfcahbahccgcBedcFsccCYdCcceBxciacoacwecbocCAigcbqccgcbbcbecDwacGegcOlacCjdcTodcJubcBCigcEfg",
    "cDGtziTnecBSXXoBfbaDrcaExbaJfcaFIlb"]

/-- The partition of the code points by grapheme cluster break. -/
def grapheme : Partition :=
  ⟨Packed.words
    "CR Control Extend L LF LV LVT Prepend Regional_Indicator SpacingMark T V ZWJ",
    Packed.runs packedGrapheme⟩

/-- The grapheme cluster breaks with the names they go by in normal form, joined by equals signs. -/
def graphemeNames : List (List String) :=
  (Packed.words
    (String.join [
      "Control=cn=control CR=cr E_Base=eb=ebase E_Base_GAZ=ebasegaz=ebg E_Modifier=em=emodifier ",
      "Extend=ex=extend Glue_After_Zwj=gaz=glueafterzwj L=l LF=lf LV=lv LVT=lvt Other=other=xx ",
      "Prepend=pp=prepend Regional_Indicator=regionalindicator=ri SpacingMark=sm=spacingmark T=t ",
      "V=v ZWJ=zwj"])).map (·.splitOn "=")

/-- The runs of equal word break, packed. -/
def packedWord : String :=
  String.join [
    "kaiabmaabsaqbaceapeakbalbjnaajaakfzaeaebzakamBkaacafhaabajcaafwabBeabSlagBhaaEhdaeabbacdaaak",
    "aaagaaaajacabaabtabDeabFiabgdaGjabBlacdabaaaajaBoaaakaaagBsdbadbbdbbdbadiBagedgaaaaajlfngbkc",
    "kdbafdBqaaudajnbanaakbbaaadaDuabaaagdaanbfdabaabdbddabaajnacacaapbaaadaBdaaBadcDkaakdaaaojna",
    "BgaaidabacakbaacadcvaaddaaaaidaaaacdaaaaedsyaacdekafxabfabbnfidaBpaaxdaanaBgdaCbaacdaaaardaa",
    "aagdajaabdcjnbpaacdbhacbacvabgabaaddacadaaaagdcbdccdaaaiadebabcaabdcjnabakaabadccdbfaebacvab",
    "gabbabbabbacadbedebdccddadhdabaahjnabdacaaadlcdbiabcabvabgabbabeacadaaaahdbcdbcdcaapbaabdcjn",
    "jaaafdbcdbhacbacvabgabbabeacadaaaagdcbdccdhcdebabcaabdcjnbaaqadaaabfadcabdadbabaabbadbadcadl",
    "aeeddcdbddcaagadojnqedahabcabwabpacadaaaagdbcdbddhbdbcacaacbaabdcjnqaaacdbhabcabwabjabeacada",
    "aaagdbcdbddhbdgbabbaabdcjnbbaaadmddaiabcabBoaabdaaaagdbcdbddaaafcaaadhcaabdcjnkfabcdbradxabi",
    "abaacgadadefdbadbhdgjncbdCjadcgdmhdbjnDjadcidlgdbjnBmaaxbdgjnladbadbadebdahabBjaetdbbdaeaakd",
    "bBjdjadDwtdbjnmddecdbcdcgddddnldbadajnaddcBlabaafaacBqabMuabdacgabaabdacBoabdacBgabdacgabaab",
    "dacoabCeabdacCoaccdBgpaqDhacfadXvacqaaaqazafCwadkahraaddjsaacdlraabdmmabcabbdCmBfdjadcjnBhcd",
    "aafaadajngDkaheaabdaBhaaadaaafCrakBeabldeldkjnEyknBlwaaedCfjdbBcdcadajngjnwBedBxedaBuaaqdaha",
    "djnridmcdaBdaamdabaajnaBraandmBjaatdijndcaajnaBjackafBqaccaqcdbudadaaadafaaadabaacdaaafHjaaC",
    "ldaKracfacBlacfachabaabaabaabBeacCaabgabaadcabgaddacfaemafcabgadgqbcqbadaarabfiblkalcajabmae",
    "faaepbedakpaekaqaefbjfbaanaaqmaBzBgdraaeaacjabaadeagaabaabaabdabkacdafeaeaarBoaBFhBzaCRuIuag",
    "daacdabamBlabaafaacCdahaapadawajgabgabgabgabgabgabgabgabBfdBvaaRwaqeaaBkfdbehfbaDobdabhdDmhb",
    "dhfBqabDparBfaBwphIaBuhbDjhBPDwBSuaCpBtacKiadpaajnabauBuaaddbjdbBeaabdaDbaabdwHpacbabaabhavp",
    "aaadacaaadadaaadawaaedeadtBzambdaBxaardkjngrdafadaabbaaadajnaBbaahdcwaamdmBcadddaBuaandoaaaj",
    "nladkjngBoaandjcaaadahaabdcjnBhcdByadbcdcbdfbdbadBekaaedccaabdkfacfacfajgabgabCfagEkaahdbbdc",
    "jngQNramwaeBwaNGugameafagaadajgbmgbegbagbbgbbgbjgaDtaBhNyasClacCbaBolaepddajmpddbeyceaakbalb",
    "akaajBaeabFeacafhaleakbalbjnaajaakfzaeaebzalCdhabdaBeadfacfacfaccaBccfelabzabsabbaboacnaBiEs",
    "aCrCaaFgadFaBcadBwapadBfBfanBdafBlaaedfBdacBjaehabeaBqGbacjngBjaeBjaeBnaiBzamkaboabgabbabkab",
    "oabgabbadBzamLyajvakhayfabBpabiaCrfacaabBrabbadaacwakwajBeaCnsabbakvakzaCsCdagbaCmaaacdbbdfd",
    "dadabcabBcaccdeadBgBcadBcaBjhabBbaabdzCbakvaksanraEgCuaCdByanByanBjaaddijngjnaBbadedbwaJqBpa",
    "bbddbaqcaCdddaBcakaaivaakdBfraaddBquaBbwajcdaCaaaodBfjnaadabaabdaaajddaBsaakdcaneadkancyahjn",
    "gcdaBjaandbjneaaabdaaaiBiaaadcaajcdaBvaandadaeddbbdajnaaabaaBjrabyaaldgadabaaadCkgabaabdaboa",
    "bjahBuaaldfjngddbhacbacvabgabbabeabbdaaaagdcbdccdcaagadfeaabdcgddedljabaacaabBlabaaaidbadcad",
    "bddbedaaaaadaaanbdBdCaaardadafjneadacaBeBvaatdababaaijnGkBuaagdcidxdaabdBiBvaaqddaaljnBmBqaa",
    "mdaaahjngtnCfodejnHqBraaodDxClaajnvhacaachabbabxaafdbbdcddaaaaadaaaabdmjnCshacBmaagdcgdaaaba",
    "aaadBbaaajdaBnaagdaaaaddiadiaaakdaBtaapddaasCuaHrBgapjngiabBkaahdbhdaaapjnyBdacvdbndCvgabbab",
    "BlaafddadbbdbgdaaaaadijngfabbabBfaaedbbdbedaaahjnLysaaddjbdaaaaadamabBhaagddednjnaadDhaaDbBJ",
    "laDyEgarHnaDXkDsapBPfaapfaadafaaodkFXqafWkaKDdBdaardajnCOsVwahBeabjngDaabjngBdacedlBvaagdjda",
    "mjnjuafsaQqBsadjnHqClaEyCwaeadaaaaCcdhddamaCmbabaaaadlbdYGcdhbghbbhbahLbchByahodhEAiEcafmadi",
    "ahjadbdbdfGEmjnTyBtdcwdUweddfdahfahdcgdBeddFscdRbDgabCsabbacaacbacdablabaabgabCmabdachabgabB",
    "babdabeabaadgabNbacyabyabBeabyabBeabyabBeabyabBeabyabhacBxnTsCcdeBxdiadoadwedbodBQmBeagfaIfg",
    "dbqdcgdbbdbedfCjaBhadEiBsadgdagacjneaaMjBdaaadrBraaddajnScBbaaddajnIgBdaabdaaaajnSrgabdabbab",
    "oabHoalgdBpCpaagdaaaejnBTudabBaabbabaacaabjabdabaabaagaaeaabaabaabcabbabaacaabaabaabaabaabba",
    "baacdabgabdabdabaabjabqafcabeabqaYezagzagzaDozoTnedDAejnBSUXbafBeDrdEyJfd"]

/-- The partition of the code points by word break. -/
def word : Partition :=
  ⟨Packed.words
    (String.join [
      "ALetter CR Double_Quote Extend ExtendNumLet Format Hebrew_Letter Katakana LF MidLetter ",
      "MidNum MidNumLet Newline Numeric Regional_Indicator Single_Quote WSegSpace ZWJ"]),
    Packed.runs packedWord⟩

/-- The word breaks with the names they go by in normal form, joined by equals signs. -/
def wordNames : List (List String) :=
  (Packed.words
    (String.join [
      "ALetter=aletter=le CR=cr Double_Quote=doublequote=dq E_Base=eb=ebase ",
      "E_Base_GAZ=ebasegaz=ebg E_Modifier=em=emodifier ExtendNumLet=ex=extendnumlet ",
      "Extend=extend Format=fo=format Glue_After_Zwj=gaz=glueafterzwj ",
      "Hebrew_Letter=hebrewletter=hl Katakana=ka=katakana LF=lf MidNumLet=mb=midnumlet ",
      "MidLetter=midletter=ml MidNum=midnum=mn Newline=newline=nl Numeric=nu=numeric ",
      "Other=other=xx Regional_Indicator=regionalindicator=ri Single_Quote=singlequote=sq ",
      "WSegSpace=wsegspace ZWJ=zwj"])).map (·.splitOn "=")

/-- The runs of equal sentence break, packed. -/
def packedSentence : String :=
  String.join [
    "jamaafabmaabsamaakaacecccbjaaabjhabjdakbznaacbacdzgaacbachalBaamjagaacbaehageagaacewnbgnaxgb",
    "hgaanaagaanaagaanaagaanaagaanaagaanaagaanaagaanaagaanaagaanaagaanaagaanaagaanaagaanaagaanaag",
    "aanaagaanaagaanaagaanaagaanaagaanaagaanaagaanaagaanaagaanaagaanaagaanaagaanabgaanaagaanaagaa",
    "naagaanaagaanaagaanaagaanaagaanabgaanaagaanaagaanaagaanaagaanaagaanaagaanaagaanaagaanaagaana",
    "agaanaagaanaagaanaagaanaagaanaagaanaagaanaagaanaagaanaagaanaagaanaagaanaagaanaagabnaagaanaag",
    "aanacgabnaagaanaagabnaagacnabgadnaagabnaagacnacgabnaagabnaagaanaagaanaagabnaagaanabgaanaagab",
    "naagacnaagaanaagabnabgaaiaanacgadiabnaagabnaagabnaagaanaagaanaagaanaagaanaagaanaagaanaagaana",
    "agaanabgaanaagaanaagaanaagaanaagaanaagaanaagaanaagaanaagaanabgabnaagaanaagacnaagaanaagaanaag",
    "aanaagaanaagaanaagaanaagaanaagaanaagaanaagaanaagaanaagaanaagaanaagaanaagaanaagaanaagaanaagaa",
    "naagaanaagaanaagaanaagaanaagaanaagaanaagaanaagaanaagaanaagaanaagaanaggabnaagabnabgaanaagadna",
    "agaanaagaanaagaanaagaanaCqgaaiaBjgagiabgelioeghaibairEhdaanaagaanaagaaibanaagcdgaajaanganbcn",
    "banbbnaagaqnbinaBigaanabgacnacgaanaagaanaagaanaagaanaagaanaagaanaagaanaagaanaagaanaagaanaaga",
    "anaagaanaegaanaagbanaagabnabgaBynaBvgaanaagaanaagaanaagaanaagaanaagaanaagaanaagaanaagaanaaga",
    "anaagaanaagaanaagaanaagaanaagaanaagaanaagaanaagbgdaanaagaanaagaanaagaanaagaanaagaanaagaanaag",
    "aanaagaanaagaanaagaanaagaanaagaanaagaanaagaanaagaanaagaanaagaanaagaanaagaanaagaanaagaanaagaa",
    "naagaanaagaanaagaanaagaanaagabnaagaanaagaanaagaanaagaanaagaanaagaanabgaanaagaanaagaanaagaana",
    "agaanaagaanaagaanaagaanaagaanaagaanaagaanaagaanaagaanaagaanaagaanaagaanaagaanaagaanaagaanaag",
    "aanaagaanaagaanaagaanaagaanaagaanaagaanaagaanaagaanaagaanaagaanaagaanaagaanaagaanaagaanaagaa",
    "naagaanaagaanaagaanaagaanaagaanaagaanaagaanaagaanaagaanaagaanaagaanaagaanaagaanaagbBlncaidaj",
    "cBogaakhBsdbadbbdbbdbadiBaieeimfhgbjckdbaeackaBqiaudajhbbhbbiaadaDuiaakaaiagdaahbfdabiabdbdd",
    "abiajhacicaiackmaeaaiaadaBdiaBadcDkiakdaaiojhaBgiaidabicajaakaaicadcviaddaaiaidaaiacdaaiaedj",
    "akbakdbkbyiacdekifxibfibbhfidaBpiaxdaahaBgdaCbiacdaaiardaaiagdajiabdabkajhbpiacdbhicbicvibgi",
    "baiddicadaaiagdcbdccdaaiiadebibciabdcjhabikaibadccdbfiebicvibgibbibbibbicadbedebdccddadhdiba",
    "ihjhabdaciaadlcdbiibcibvibgibbibeicadaaiahdbcdbcdcaipbiabdcjhjaiafdbcdbhicbicvibgibbibeicada",
    "aiagdcbdccdhcdebibciabdcjhbaiqadaaibfidcibdidbibaibbidbidcidlieeddcdbddcaigadojhqedahibcibwi",
    "bpicadaaiagdbcdbddhbdbcicaicbiabdcjhqaiacdbhibcibwibjibeicadaaiagdbcdbddhbdgbibbiabdcjhbbiaa",
    "dmddaiibcibBoiabdaaiagdbcdbddaaifciaadhciabdcjhkfibcdbridxibiibaicgidadefdbadbhdgjhcbdnBviaa",
    "dabiagdfgiahdbjhBnbibaibeibxibaibjiaadabiaidaaiceibaibgdbjhcdiBgaixbdgjhladbadbadadcabdahibB",
    "jietdbbdaeiakdbBjdjadCfBqiatdaaiajhabkefiaddadiacdaaiacdabiagdaciaddamialdaaiaadajhaddcBlnba",
    "nfancBqibagaMtibdicgibaibdicBoibdicBgibdicgibaibdicoibCeibdicCoiccdcakebkxpiqDhncfgdXvibakaq",
    "iaamaziabcdCwidkihriaddjsiacdabkjriabdmmibcibbdmBziaBfdabkbaieaiaadcjhyajaakeajaakbcdaaeaada",
    "jhgDkiheiabdaBhiaadaaifCrikBeibldeldibkajhaBdiceilBriezigkhBlwiaedeCaiajdbBcdcadajhgjhnaiadk",
    "eBedBxedaBuiaqdahibbkajhabkcbklidjckacdaBdiamdabiajhaBriandmBjiatddbkdjhdciajhaBjiabkaigaana",
    "agfBqicciqcdbudadiaadafiaadabiacdaaifHjgaCldaanaagaanaagaanaagaanaagaanaagaanaagaanaagaanaag",
    "aanaagaanaagaanaagaanaagaanaagaanaagaanaagaanaagaanaagaanaagaanaagaanaagaanaagaanaagaanaagaa",
    "naagaanaagaanaagaanaagaanaagaanaagaanaagaanaagaanaagaanaagaanaagaanaagaanaagaanaagaanaagaana",
    "agaanaagaanaagaanaagaanaagaanaagaanaagaanaagaanaagaanaagaanaagaanaagaanaagaanaagaanaagaanaag",
    "aanaagaanaagaanaagaanaagaanaagaanaagaanaagaanaagaanaagaanaagaanaagaanaagaanaagaanaagaanaagaa",
    "naagaanaagaanaagaanaagaanaagaanaigaanaagaanaagaanaagaanaagaanaagaanaagaanaagaanaagaanaagaana",
    "agaanaagaanaagaanaagaanaagaanaagaanaagaanaagaanaagaanaagaanaagaanaagaanaagaanaagaanaagaanaag",
    "aanaagaanaagaanaagaanaagaanaagaanaagaanaagaanaagaanaagaanaagaanaagaanaagaanaagaanaagaanaagaa",
    "naagaanaagaanaagaanaagaanaagaanaagaanaagaanaagaanaigahnafgcfnchgahnahgahnafgcfnchgbanbanbanb",
    "anahgahnangchgahnahgahnahgahnaegbbgaenbagdcgbbgaenddgcbgadnehgaenfcgbbgaendkmaaeabdabedbjdhc",
    "eaadblaeeaamjbcbbkhbcackvamaeebjebaglbcaagnbcbmgBzBgdraneancagacnabgacnaagbandenganbanbanbdn",
    "bagadnaagadiaagcbgabnfanadgeagrpnapgaciaanaagadiOtdcBdbcPfznazgYbfchncDbbcBfjcPnvcCldcBgbcTu",
    "BvnaBvgaanaagacnabgaanaagaanaagaanaagadnaagaanabgaanahgacnaagaanaagaanaagaanaagaanaagaanaaga",
    "anaagaanaagaanaagaanaagaanaagaanaagaanaagaanaagaanaagaanaagaanaagaanaagaanaagaanaagaanaagaan",
    "aagaanaagaanaagaanaagaanaagaanaagaanaagaanaagaanaagaanaagaanaagaanaagaanaagaanaagaanaagaanaa",
    "gaanaagaanaagaanaagaanaagaanaagaanaagaanaagaanaagaanaagaanaagaanaagaanaagaanabgganaagaanaaga",
    "cdaanaagfckeBlgbagfagcCdihaipadawijgibgibgibgibgibgibgibgibBfdancobccjceakaaimakfacqbkahcQda",
    "maajaakcciajcchcbccbiiafdbeiceieDhicbdccibDlibdifBqibDpirBfiBwpiTsJTniCmBGUeiCpBtibakaKiibbk",
    "apiajhabiuanaagaanaagaanaagaanaagaanaagaanaagaanaagaanaagaanaagaanaagaanaagaanaagaanaagaanaa",
    "gaanaagaanaagaanaagaanaagaanaagaanaagaanaagaanaagaanaagaaiaddbjdbaiaanaagaanaagaanaagaanaaga",
    "anaagaanaagaanaagaanaagaanaagaanaagaanaagaanaagaanaagaanacgabdaDbiabdbakdakBfiicanaagaanaaga",
    "anaagaanaagaanaagaanaagaanacgaanaagaanaagaanaagaanaagaanaagaanaagaanaagaanaagaanaagaanaagaan",
    "aagaanaagaanaagaanaagaanaagaanaagaanaagaanaagaanaagaanaagaanaagaanaagaanaagaanaagaanaagaanaa",
    "gaanaagaanaagaanaagaanaagaanajgaanaagaanaagabnaagaanaagaanaagaanaagaanaagaaicanaagaanaagaaia",
    "anaagaanacgaanaagaanaagaanaagaanaagaanaagaanaagaanaagaanaagaanaagaanaagaenaagaenaagaanaagaan",
    "aagaanaagaanaagaanaagaanaagaanaagadnaagaanaagabnaagcanaagbagbagaanaagaanaagaanaagaanvcgaanaa",
    "gaaiacgagiaadaciaadadiaadawiaedeadtBzicbkibdaBxiardibkajhgrdafidaibbiaadajhaBbiahdbakawiamdm",
    "BcidddaBuiandhbkfaiajhgeiaadajiajhaeibBoiandjciaadahiabdcjhdckawidaiacdaBxiaadaaiacdabiabdae",
    "iabdaaiaadaaiycickiaedabkaciabdkficficfijgibgibBqgbnggDbgaBiiahdaakabdcjhgQNrimwieBwiMNcObic",
    "EbiBmggmegfaiaadajibmibeibaibbibbibEdiBhNyiabcqClicCbiBoliepdabjaakabjabkabchpdbbjcpccbchbja",
    "aabbjabkaajafceajmeibFeicaebakgbccbjaaabjhabjdakbznaacbacdzgaacbacbbcaakabcaajbCdiabdaBeidfi",
    "cficficciBcceelibzibsibbiboicniBiEsiCrCaiFgadFaBcidBwipadBfBfinBdifBliaedfBdicBjiehibeiBqBnn",
    "aBngaCzicjhgBjneBjgeBniiBzimknbonbgnbbnbkgbogbggbbgdBzimLyijvikhiyagabiacgbBpgbigCrficaibBri",
    "bbidaicwikwijBeiCnsibbikvikziCsCdigbiCmaiacdbbdfddadibcibBciccdeadwbkiBcidBciBjhibBbiabdzCbi",
    "kviksinriEgCuiCdBynnBygnBjiaddijhgjhafiavndedbaiavgJqBpibbddbiqciCdddaBcikaiiviakdeekwriadda",
    "dkBmuiBbwijcdaCaiaodabkBdjhaadabiabdaaijddaBsiakdcahadkaadkahcyihjhgcdaBjiandbjhbckaaiabdaai",
    "iBiiaadcaijcdaBviandadiabkcddaakabdajhaaibaibbkBgribyialdabkbbkbadabiaadCkgibaibdiboibjiaakg",
    "BuialdfjhgddbhicbicvibgibbibeibbdaaiagdcbdccdcaigadfeiabdcgddedljibaicaibBlibaiaidbadcadbddb",
    "edaaiaadaaiabklbdBdCaiardadiabkdjheadaciBeBviatdabibaiijhGkBuiagdcidbbkfokadiabdBiBviaqdabkb",
    "ailjhBmBqiamdaaihjhgthBcBaicodejhcckbgiHdBriaodDxBfnaBfgajhvhicaichibbibxiafdbbdcddaaiaadaai",
    "abdaakbakjjhCshicBmiagdcgdaaibaiaadBbaiajdaBniagdaaiadddbkdadiaiakdaBtiapdbbkaaisCuiHrBgipjh",
    "giibBkiahdbhdaaiabknjhyBdicvdbndCvgibbibBliafddadbbdbgdaaiaadijhgfibbibBfiaedbbdbedaaihjhLys",
    "iaddabkhbdaaiaadamibBhiagddedabkljhaadDhaiDbBJliDyEgirHniDXkDsipBPfiapeaadafiaodkFXqifWkiKDd",
    "BdiardajhCOsVwihBeibjhebkaDaibjhgBdicedaakkBviagdabkhdiaakljhjuifsiQqBsibbkajhHqBfnaBfgyakDz",
    "CwieadaaiaCcdhddamiCmbibaiaadlbdoJBziiBVpiBpjiNFrdibgibbibLeipaiBdcicaiodiiPfiDKuEcifmidiihj",
    "idbdaakadeGEmjhTyBtdcwdUweddfdaheahdcgdBeddFscdRbznazgaznaggbrgaznazgaanbbncancbncdnbhnadgba",
    "gbggbkgaznazgabnbdnchnbgnbzgabnbdnbenbandgnbzgaznazgaznazgaznazgaznazgaznazgaznaBbgcynbygbfg",
    "aynbygbfgaynbygbfgaynbygbfgaynbygbfgaanaagcBxhTsCcdeBxdiadoaddaksedbodBQmjgaaiatggfgIfgdbqdc",
    "gdbbdbedfCjgBhadEiBsidgdagicjheaiMjBdiaadrBriaddajhScBbiaddajhIgBdiabdaaiajhSrgibdibbiboibHo",
    "ilgdBpBhnaBhgagdaaiejhBTudibBaibbibaicaibjibdibaibaigaieaibaibaibcibbibaicaibaibaibaibaibbib",
    "aicdibgibdibdibaibjibqifcibeibqiYezngzngznBWmccCBvjhBNqCLFbiBgGDtigInicINpioLBkipXxiDQwUviCF",
    "yHHyifGFfiBOMXlaeBeDrdEyJfd"]

/-- The partition of the code points by sentence break. -/
def sentence : Partition :=
  ⟨Packed.words
    "ATerm CR Close Extend Format LF Lower Numeric OLetter SContinue STerm Sep Sp Upper",
    Packed.runs packedSentence⟩

/-- The sentence breaks with the names they go by in normal form, joined by equals signs. -/
def sentenceNames : List (List String) :=
  (Packed.words
    (String.join [
      "ATerm=at=aterm Close=cl=close CR=cr Extend=ex=extend Format=fo=format OLetter=le=oletter ",
      "LF=lf Lower=lo=lower Numeric=nu=numeric Other=other=xx SContinue=sc=scontinue Sep=se=sep ",
      "Sp=sp STerm=st=sterm Upper=up=upper"])).map (·.splitOn "=")

end Segmentation
end Unicode
end StreamEditor
