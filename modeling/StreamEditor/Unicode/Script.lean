/-
# Scripts of Unicode characters

Every assigned character belongs to one script (`Common` and `Inherited` count as scripts), and
some characters are used with several: their script extensions name all of these in place of
the one script. The module holds both, packed, and answers which code points belong to a script.

Key definitions: `Script.partition`, `Script.members`, `Script.extended`, `Script.named`.
-/
import StreamEditor.Unicode.Packed

namespace StreamEditor
namespace Unicode
namespace Script

/-- The scripts, in the order the packed runs count them. -/
def scripts : List String :=
  Packed.words
    (String.join [
      "Adlam Ahom Anatolian_Hieroglyphs Arabic Armenian Avestan Balinese Bamum Bassa_Vah Batak ",
      "Bengali Bhaiksuki Bopomofo Brahmi Braille Buginese Buhid Canadian_Aboriginal Carian ",
      "Caucasian_Albanian Chakma Cham Cherokee Chorasmian Common Coptic Cuneiform Cypriot ",
      "Cypro_Minoan Cyrillic Deseret Devanagari Dives_Akuru Dogra Duployan Egyptian_Hieroglyphs ",
      "Elbasan Elymaic Ethiopic Garay Georgian Glagolitic Gothic Grantha Greek Gujarati ",
      "Gunjala_Gondi Gurmukhi Gurung_Khema Han Hangul Hanifi_Rohingya Hanunoo Hatran Hebrew ",
      "Hiragana Imperial_Aramaic Inherited Inscriptional_Pahlavi Inscriptional_Parthian Javanese ",
      "Kaithi Kannada Katakana Kawi Kayah_Li Kharoshthi Khitan_Small_Script Khmer Khojki ",
      "Khudawadi Kirat_Rai Lao Latin Lepcha Limbu Linear_A Linear_B Lisu Lycian Lydian Mahajani ",
      "Makasar Malayalam Mandaic Manichaean Marchen Masaram_Gondi Medefaidrin Meetei_Mayek ",
      "Mende_Kikakui Meroitic_Cursive Meroitic_Hieroglyphs Miao Modi Mongolian Mro Multani ",
      "Myanmar Nabataean Nag_Mundari Nandinagari New_Tai_Lue Newa Nko Nushu ",
      "Nyiakeng_Puachue_Hmong Ogham Ol_Chiki Ol_Onal Old_Hungarian Old_Italic Old_North_Arabian ",
      "Old_Permic Old_Persian Old_Sogdian Old_South_Arabian Old_Turkic Old_Uyghur Oriya Osage ",
      "Osmanya Pahawh_Hmong Palmyrene Pau_Cin_Hau Phags_Pa Phoenician Psalter_Pahlavi Rejang ",
      "Runic Samaritan Saurashtra Sharada Shavian Siddham SignWriting Sinhala Sogdian ",
      "Sora_Sompeng Soyombo Sundanese Sunuwar Syloti_Nagri Syriac Tagalog Tagbanwa Tai_Le ",
      "Tai_Tham Tai_Viet Takri Tamil Tangsa Tangut Telugu Thaana Thai Tibetan Tifinagh Tirhuta ",
      "Todhri Toto Tulu_Tigalari Ugaritic Vai Vithkuqi Wancho Warang_Citi Yezidi Yi ",
      "Zanabazar_Square"])

/-- The runs of equal script, packed; code points of no script are left out. -/
def packed : String :=
  String.join [
    "aCmyazCvafyazCvaBuyaaCvaoyaaCvaeyawCvaayaBeCvaayaRgCvaBmyaeCvaeyabmatyaEhCfadBsaayacBscdBsaa",
    "yaaBseaBsaayaaBsaayacBsbaBsbtBsbCkBsanzapBsaFcBdabCfaGmBdbBlecBxeccebCcCciBaCcefCcledaayafda",
    "ayandaayacdaayaBfdaayajdakCfazdaaCfaEddaayaBhdanFnbChFnccFnaBvdaBxFyoCgEaccEaaBtFacoFabBbDgc",
    "aDgbkFnfBedbbdfCwdaayaBcdaDcBfadCfaoBfabyazBfadkbhkcbkcvkbgkbakddkcikcbkcdkiakebkbekcykccBvb",
    "fBvebBvcvBvbgBvbbBvbbBvbbBvcaBvbeBvebBvccBvdaBvhdBvbaBvhqBvkcBtbiBtbcBtbvBtbgBtbbBtbeBtcjBtb",
    "cBtbcBtcaBtpdBtclBthgBtbcEpbhEpcbEpcvEpbgEpbbEpbeEpciEpcbEpccEphcEpebEpbeEpcrEpkbFubfFudcFub",
    "dFudbFubaFubbFudbFudcFudlFueeFudcFubdFucaFugaFuouFufmFxbcFxbwFxbpFxciFxbcFxbdFxhbFxbcFxcaFxc",
    "dFxcjFxhiFxamCkbcCkbwCkbjCkbeCkciCkbcCkbdCkhbCkgbCkbdCkcjCkbcCkmmDfbcDfbByDfbcDfbfDfepDfczDf",
    "bcFgbrFgdxFgbiFgbaFgcgFgdaFgefFgbaFgbhFggjFgccFgmCfFzeayaBbFzBlbCubaCubeCubxCubaCubwCuceCuba",
    "CubgCubjCucdCuBgCtGabBjGaeBmGabBjGaboGabgGaadyabGaBlGdDuaBlBobaBofaBocBqBoaayadBoaJvByaCuBmb",
    "dBmcgBmbaBmbdBmcBoBmbdBmcBgBmbdBmcgBmbaBmbdBmcoBmbCeBmbdBmcCoBmcBfBmdzBmgDhwcfwcYpraBcEddCwE",
    "zacyakEzhvFojaFoauCaabyjtqmmFpbcFpbbFpmDpCqcjCqgjCqgbDrabyaaDraayatDrgDkDrhBqDrfCrrkBeCxblCx",
    "elCxeaCxdlCxaBdFqceFqlBrDyezDygkDydbDyaBfCqaBbpcbpaCkFrbBcFrckFrgjFrgnFrcBeCfBxCygbBxgaClFka",
    "BzjidjaCdCwdoCwdcCwaBvEeakBdfBqBoccBoahFkicCfaayamCfaayagCfadyaaCfafyaaCfacyabCfaayfBlCvaeBs",
    "aaBdaBwCvaeBsadCvaeBsamCvaaBdaCrCvaaBsaClCfaJvCvavBscfBscBlBscfBschBsbaBsbaBsbaBsbBeBscCaBsb",
    "oBsbnBscfBsbsBsccBsbiBsblyabCfaDiybkyaaCvckyaaCvaoybmCvdBgypBgCfpBlyaaBsacyabCvafyaaCvaBayaa",
    "CvaqyaBoCvacyeZpywkyvBJryaJvoaYdycBfybEayaDrBpaBfCvaElzfgzaBlBobaBofaBocCdGbhbGboaGbawBmjgBm",
    "bgBmbgBmbgBmbgBmbgBmbgBmbgBmbBfBdaDpyBizBxbDkBxmIfBxBauyaaBxaayaaBxayyaiBxadCfabByahyadBxady",
    "bDhCdcbCfabyacCdaayaDlClabyacClfBqmbDpBybpyaBfmaBlyjayapClaBeBybClyaBeByaDcyaBuClaayaDjClaGl",
    "yaJTnBxaClyaBFBjBxaBSuGmdCcGmjBvDaaLnGhuDrBdaDjhiBhyaDxCvacyaCoCvcbCvbaCvbhCvvnCvaBsFmdjygCd",
    "EviCrFbilFbgBfBfaBtCnaayaaCnaBjEylaEyaBcBydCzCibayajCiebCiaBeDubCcvjnvcjvcdvaBfDuaCoFsyeFsaw",
    "DlkfBmcfBmcfBmjgBmbgBmbBqCvaayaiCvaaBsadCvabyeDbwaBtDlcjDlgQNrBymwByeBwByMNcObBxcEbBxBmgCvme",
    "efzCcbeCcbaCcbbCcbbCcbjCcaEkdqNydabyaDbdcCbdhadBgpdapCfajygnCfabBdaBiybsybdyeedbFedcaybBfyaz",
    "CvafyazCvakyajClaayaBsClabyaBeBydfBycfBycfByccBydgybgykeyclCzbzCzbsCzbbCzboCzcnCzBiEsCzfcyeB",
    "sydiyaDaBsbmydaBsBvBsyaaCfFaBcDbdBwspaCfaBayeBjEhjcEhaBaBqfBqEjfBdGgbaGgaBjEkenEkBqDbBeaBvFd",
    "aBdErcjErgBjEqeBjEqeBnBkiBztlatakGiboGibgGibbGibkGiboGibgGibbGidBzGdmLyCyjvCykhCyyfCvbBpCvbi",
    "CvCrfBbcaBbbBrBbbbBbdaBbcaBbavCebiCeaBfEtaBeDviiDvBwsCbbbCbfeCbaBbEwdaEwazDcfaDcCmBfDoaxDnet",
    "DncBtDnadCobbCofhCobcCobBcCoccCoejCohiCohBfEmaBfEiBgBmDhelDhjCbfdgfavChchChasCgfhCgarExhdExm",
    "gExDcCuEnCdByEgnByEghfEgaBnBzijBzgBlBndBcBnibBnIaBedbBpGlbcGlcbGlqcdCdddaBnEliBpFhwzEoBmBbxu",
    "wBljCzneBjnjanaCoCjkaCjcyFihjFigCaubruiBmDdjDrFcbtFglrCrbBuCrCkgDtbaDtbdDtboDtbkDtgCgCsfjCsg",
    "dBrbhBrcbBrcvBrbgBrbbBrbeBrbaCfaiBrcbBrccBrcaBrgaBrfgBrcgBrdeBrljGfbaGfcaGfbBlGfbjGfbaGfcaGf",
    "bdGfbjGfbbGfibGfBdDnDzbeDzBeCtGcijGcGkCbFecBlFeBiCqDqljDqgmDrtCfFtgjFtgtDuBcBabcobewbHdChBhD",
    "wDeGkmaGkagBgcaBgchBgbbBgbBdBgbbBgclBgjjBgCshDxcBtDxckDxBbCtGniDeFjnpraCeEuhjBfHaBhFlojFlgil",
    "bBslbnlkBcldBfDicvDibnDiCvgDjbbDjbBrDjdaDjbbDjbiDjijDjgfBubbBubBkBubbBubfBuhjBuLyyDehqCmbBoC",
    "mdBcCmDhaDapBxFunaFuaBJlBaDyEgBabeBalHnBaDXkDuBcnBQrBjkFXqBjfWkcKDdCfBwCOsVwhhBeDsbjDsebDsaD",
    "aFvbjFvgBdicfikCrEskjEsbgEsbuEsfsEsQqCfCtHqDmDkDxCwDpeCeDphqDpCmaFwaaEbabBxaaCplbBxoJBzFwiBD",
    "nFwaSbCpBpaCpaiFwNFrdClbgClbbClbaClaLaCdacClpaCdBdcCdcaClodCliPfEbDKuEcBifmBidiBihjBicdBiady",
    "FVgJpygQtyCyBtCfcwCfjElyCiJlykBmycCjyacCfaqyahCfabyagCfaBdyadCfaCiyvCrBsEstymtymDiyjyyFfDgyb",
    "CsybbycaycbycdyblybaybgybCmybdychybgybBbybdybeybaydgybNbycLfycBxyaZbFfpeFfboFfBQmBeCvgfCvIfg",
    "BpbqBpcgBpbbBpbeBpfCjBdBhaBdEiBsEcdnEccjEcebEcMiBeGerCfGjfaGjRwBpDwIgBqEfeaEfSmgBmbdBmbbBmbo",
    "BmbHoDmcpDmBpCxaejaebaBEfCpyCyCiyHmddbBadbbdbadcadbjdbddbadbadgadeadbadbadbcdbbdbadcadbadbad",
    "badbadbbdbadcddbgdbddbddbadbjdbqdfcdbedbqdCabdKkBryeDvymoycoyboybBkykGryCezyaaCdabynBryeiyhb",
    "yofyFyBLvyeqydmydEoyeDqyglyeayplyeCdyijygBnyiBdyclyebyCkNbymnycmydjyfCdyhoyckygiyhFqybDxyBNq",
    "CLFbBxBgGDtBxgInBxcINpBxoLBkBxpXxBxDQwUvBxCFyHHyBxfGFfBxBOMXlayBeDryEyJfCf"]

/-- The partition of the code points by script. -/
def partition : Partition :=
  ⟨scripts, Packed.runs packed⟩

/-- The groups of scripts that serve as extensions, packed: the size of a group, then its
scripts. -/
def packedGroups : String :=
  String.join [
    "cadiadBnBzEaFnFyGljadBzDgDhEoExFhFndadEgcdzhdBnBzEaFnFyGlcdBzcdEacdFnddFnFycdFyddFyGlkeBdBiB",
    "qBsCcCvEjFnFqdeBoBpqfszBiBkBoBpBqBsBuBxCvDcDdEjFdhfsBoCjDcEgFacfEnbkdkuFmhkBdBfCvDaFzGeckBfx",
    "kBfBhBrBtBuBvBwCkCsCxDdDfDjDxEfEpFgFmFtFuFxGcvkBfBhBrBtBuBvCkCsDdDfDjDxEfEpFgFmFtFuFxGcnkBfB",
    "rBtBvCkCvDfEpFcFuFxGcmkBfBrBtBvCkCvDfEpFuFxGcekBfBrCklkBfBrCkDfDxEpFgFxGcGfdkBfGfcmBxfmBxByC",
    "dCljmBxByCdClDaDrGaGmimBxByCdClDrEvGmimBxByCdClDrGaGmhmBxByCdClDrGmgmBxByCdClGmcmCvcpCieqCaF",
    "oFpgsBoBpDbEgEnesBsDoEgltwzBdBqBsCvEqFnGbGdgtwBqCvFlFzdtCvGdduDuFqiwzBdBsCvEjFlFqiwBdBsCvEqF",
    "lFqGdewBdCvEqewBdCvGbfwBiClCvFnewBiCvFndwCvFndwCvFqjzBiCcCvEjFnFqGbGdgzBkBpBqClCvczBsczCvdBb",
    "BcCzdBbCyCzcBbCzcBdBpeBdBsCvEjcBdCvdBdCvFndBdCvGdcBdEjbBfqBfBhBtBvCjCkCrCsDdDfDqDxFcFtGcGfpB",
    "fBhBtBvCjCkCrCsDdDqDxFcFtGcGfmBfBhBtBvCjCrCsDdDqFcFtGclBfBhBtBvCjCrCsDdDqFtGceBfBhCjDdcBfBrd",
    "BfBrCkeBfBrCkGfdBfBrCvgBfCkDfEpFuFxcBfDxcBfFccBfFubBidBiCvFncBmCvdBoBpCvfBpCvFlFnFzcBrFubBse",
    "BsCvEjGdcBtCrcBvDtbBxdBxCdClcBxCvcBxFwcCdCldCkDxGfdCnCvDubCvcCvDadCvDrEvcCvEqcCvFldCvFlFncCv",
    "FncCvFzcCvGbcDhEocDrEvbDxbEzbFn"]

/-- The runs of code points with script extensions, packed, each with the number of its group. -/
def packedExtensions : String :=
  String.join [
    "HbaoTwatkaBjbcBjbaDtjaDzbaBjBmaBsaaBtaaBvaaDfaaBoaaCbaaCiaaCaaamaaEaaaDcaaBuaaBzaaDwaaDdbaDw",
    "aaClbaDimaDycaBwaaBxaaDyhaDxaaDybaByaaBpqaDhcaDhsaDvfaBqemDsebCcKjaCmaaChabCjaaChJxanFaafoaf",
    "aajcabBgackkikjlgaiDvagYmaxaayrawaavajCsEojsEojDkEojDjJmnDgJijDqBGqjBrGvaDeCGlcEeCtbBlHvbEcb",
    "aEcBVeazaaCnaazaaCuaaCnabuaaCzaauaaCzaaCxaaCnabCzabCnaaCzaauagCnaaCyaauabCnaauadCnaaBaaaCtaa",
    "CvabuaarabCtaaEdHpbDhCcaCkbaEfVsaDuBfaakaBmcaBnFqaCwEZmaCdyaqaapkaDbeadbaChQmpDobaBhaaBfaaBd",
    "caDlbbBgabBeafBibaBdahBiadBdkdBccaBdaeDpbaBdebDmabDlDldDpdaDpDmaBiaaDpFrpDlBgBlDljaDoBwBnDlC",
    "eBwDlplDlBzaDlDkyDlkeDlDsBeDlBRIuaChFohDnLkcCoacCpabCraaCqaaCrHbaBbbaDaCgaDrGeaBkBFPmbhGwakk",
    "akCtbBdKweBikaDpBtbDpNobCeaaCgeBsCfdiCgQaBbeDAkaEbDBiaDgbaDgCdbDgETvbDgbaDgCHJwdDbIPwrDlLRyb",
    "Dl"]

/-- The groups of scripts, by their number. -/
def groups : List (List Nat) :=
  Packed.blocks (Packed.numbers packedGroups)

/-- The runs of code points whose extensions differ from their script. -/
def extensionRuns : List (Interval × Nat) :=
  Packed.runs packedExtensions

/-- The code points of a script. -/
def members (script : String) : CodeSet :=
  partition.members script

/-- The code points used with a script: those that list it among their extensions, and those of
the script that have no extensions of their own. -/
def extended (script : String) : CodeSet :=
  let ofGroup (run : Interval × Nat) : Bool :=
    (groups.getD run.2 []).any fun k => scripts.getD k "" == script
  let listed := CodeSet.ofIntervals ((extensionRuns.filter ofGroup).map Prod.fst)
  let elsewhere := CodeSet.ofIntervals (extensionRuns.map Prod.fst)
  listed.union ((members script).diff elsewhere)

/-- The scripts with the names they go by in normal form, joined by equals signs. -/
def aliases : List (List String) :=
  (Packed.words
    (String.join [
      "Adlam=adlam=adlm Caucasian_Albanian=aghb=caucasianalbanian Ahom=ahom ",
      "Anatolian_Hieroglyphs=anatolianhieroglyphs=hluw Arabic=arab=arabic Armenian=armenian=armn ",
      "Imperial_Aramaic=armi=imperialaramaic Avestan=avestan=avst Balinese=bali=balinese ",
      "Bamum=bamu=bamum Bassa_Vah=bass=bassavah Batak=batak=batk Bengali=beng=bengali ",
      "Bhaiksuki=bhaiksuki=bhks Bopomofo=bopo=bopomofo Brahmi=brah=brahmi Braille=brai=braille ",
      "Buginese=bugi=buginese Buhid=buhd=buhid Chakma=cakm=chakma ",
      "Canadian_Aboriginal=canadianaboriginal=cans Carian=cari=carian Cham=cham ",
      "Cherokee=cher=cherokee Chorasmian=chorasmian=chrs Common=common=zyyy ",
      "Coptic=copt=coptic=qaac Cypro_Minoan=cpmn=cyprominoan Cypriot=cprt=cypriot ",
      "Cuneiform=cuneiform=xsux Cyrillic=cyrillic=cyrl Deseret=deseret=dsrt ",
      "Devanagari=deva=devanagari Dives_Akuru=diak=divesakuru Dogra=dogr=dogra ",
      "Duployan=dupl=duployan Egyptian_Hieroglyphs=egyp=egyptianhieroglyphs Elbasan=elba=elbasan ",
      "Elymaic=elym=elymaic Ethiopic=ethi=ethiopic Garay=gara=garay Georgian=geor=georgian ",
      "Glagolitic=glag=glagolitic Gunjala_Gondi=gong=gunjalagondi ",
      "Masaram_Gondi=gonm=masaramgondi Gothic=goth=gothic Grantha=gran=grantha Greek=greek=grek ",
      "Gujarati=gujarati=gujr Gurung_Khema=gukh=gurungkhema Gurmukhi=gurmukhi=guru Han=han=hani ",
      "Hangul=hang=hangul Hanifi_Rohingya=hanifirohingya=rohg Hanunoo=hano=hanunoo ",
      "Hatran=hatr=hatran Hebrew=hebr=hebrew Hiragana=hira=hiragana ",
      "Pahawh_Hmong=hmng=pahawhhmong Nyiakeng_Puachue_Hmong=hmnp=nyiakengpuachuehmong ",
      "Katakana_Or_Hiragana=hrkt=katakanaorhiragana Old_Hungarian=hung=oldhungarian ",
      "Inherited=inherited=qaai=zinh Inscriptional_Pahlavi=inscriptionalpahlavi=phli ",
      "Inscriptional_Parthian=inscriptionalparthian=prti Old_Italic=ital=olditalic ",
      "Javanese=java=javanese Kaithi=kaithi=kthi Kayah_Li=kali=kayahli Katakana=kana=katakana ",
      "Kannada=kannada=knda Kawi=kawi Kharoshthi=khar=kharoshthi ",
      "Khitan_Small_Script=khitansmallscript=kits Khmer=khmer=khmr Khojki=khoj=khojki ",
      "Khudawadi=khudawadi=sind Kirat_Rai=kiratrai=krai Tai_Tham=lana=taitham Lao=lao=laoo ",
      "Latin=latin=latn Lepcha=lepc=lepcha Limbu=limb=limbu Linear_A=lina=lineara ",
      "Linear_B=linb=linearb Lisu=lisu Lycian=lyci=lycian Lydian=lydi=lydian ",
      "Mahajani=mahajani=mahj Makasar=maka=makasar Malayalam=malayalam=mlym Mandaic=mand=mandaic ",
      "Manichaean=mani=manichaean Marchen=marc=marchen Medefaidrin=medefaidrin=medf ",
      "Meetei_Mayek=meeteimayek=mtei Mende_Kikakui=mend=mendekikakui ",
      "Meroitic_Cursive=merc=meroiticcursive Meroitic_Hieroglyphs=mero=meroitichieroglyphs ",
      "Miao=miao=plrd Modi=modi Mongolian=mong=mongolian Mro=mro=mroo Multani=mult=multani ",
      "Myanmar=myanmar=mymr Nabataean=nabataean=nbat Nag_Mundari=nagm=nagmundari ",
      "Nandinagari=nand=nandinagari Old_North_Arabian=narb=oldnortharabian Newa=newa ",
      "New_Tai_Lue=newtailue=talu Nko=nko=nkoo Nushu=nshu=nushu Ogham=ogam=ogham ",
      "Ol_Chiki=olchiki=olck Old_Permic=oldpermic=perm Old_Persian=oldpersian=xpeo ",
      "Old_Sogdian=oldsogdian=sogo Old_South_Arabian=oldsoutharabian=sarb ",
      "Old_Turkic=oldturkic=orkh Old_Uyghur=olduyghur=ougr Ol_Onal=olonal=onao Oriya=oriya=orya ",
      "Osage=osage=osge Osmanya=osma=osmanya Palmyrene=palm=palmyrene Pau_Cin_Hau=pauc=paucinhau ",
      "Phags_Pa=phag=phagspa Psalter_Pahlavi=phlp=psalterpahlavi Phoenician=phnx=phoenician ",
      "Rejang=rejang=rjng Runic=runic=runr Samaritan=samaritan=samr Saurashtra=saur=saurashtra ",
      "SignWriting=sgnw=signwriting Sharada=sharada=shrd Shavian=shavian=shaw ",
      "Siddham=sidd=siddham Sinhala=sinh=sinhala Sogdian=sogd=sogdian ",
      "Sora_Sompeng=sora=sorasompeng Soyombo=soyo=soyombo Sundanese=sund=sundanese ",
      "Sunuwar=sunu=sunuwar Syloti_Nagri=sylo=sylotinagri Syriac=syrc=syriac ",
      "Tagalog=tagalog=tglg Tagbanwa=tagb=tagbanwa Tai_Le=taile=tale Tai_Viet=taiviet=tavt ",
      "Takri=takr=takri Tamil=tamil=taml Tangut=tang=tangut Tangsa=tangsa=tnsa ",
      "Telugu=telu=telugu Tifinagh=tfng=tifinagh Thaana=thaa=thaana Thai=thai ",
      "Tibetan=tibetan=tibt Tirhuta=tirh=tirhuta Todhri=todhri=todr Toto=toto ",
      "Tulu_Tigalari=tulutigalari=tutg Ugaritic=ugar=ugaritic Unknown=unknown=zzzz Vai=vai=vaii ",
      "Vithkuqi=vith=vithkuqi Wancho=wancho=wcho Warang_Citi=wara=warangciti Yezidi=yezi=yezidi ",
      "Yi=yi=yiii Zanabazar_Square=zanabazarsquare=zanb"])).map (·.splitOn "=")

/-- The script behind a name in normal form. -/
def named (name : String) : Option String :=
  (aliases.find? fun entry => entry.tail.contains name).bind List.head?

end Script
end Unicode
end StreamEditor
