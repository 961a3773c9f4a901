/-
# Binary properties of Unicode characters

A binary property holds of a code point or does not. The module holds the set of each, packed,
under the names it goes by in normal form.

Key definitions: `Binary.table`, `Binary.named`.
-/
import StreamEditor.Unicode.Packed

namespace StreamEditor
namespace Unicode
namespace Binary

/-- The code points with the property `ASCII_Hex_Digit`, packed. -/
def packedAsciiHexDigit : String :=
  "BwjhfBaf"

/-- The code points with the property `Alphabetic`, packed. -/
def packedAlphabetic : String :=
  String.join [
    "CnzgzBvakaeafwbBebRpeloehabaDiaBdrbbcdbagabcbabtbDebFiiGjbBlcagBoBnnbabbbbbaiBaedBdkfCdbgoDx",
    "bheheckccaqBvnDwyBgjbeafxcstyhkfxbfiaiBpkldggCxbpbceonsbhcbcvbgbadddhcbcbbaiaebbembkaecbfebc",
    "vbgbbbbbbeeebcbeahdbarflcbibcbvbgbbbedibcbbdapdvdecbhcbcvbgbbbedhcbcbjbebbenaqbbfdcbddbbabbd",
    "bdcdleedcbcdagaBombcbwbpdhbcbcibbccacdBcdbhbcbwbjbedhbcbcibgbbdncmmbcbBochbcbcbafdhewfbcbrdx",
    "bibacgifbabhsbnCffggaBzbbabebxbabsbccebagaodBgaClhbBjesepbBjCpCcbaceqClkdcBlbafacBqbMubdcgba",
    "bdcBobdcBgbdcgbabdcobCebdcCoBlpqDhcfdXvcqbzfCwdkhtlumtmmbcbbmBzcsoaeaCpDkhBqfCrkBebleixBdcel",
    "BrezCcBbeCkctByaxblcBxBzbobhBzBpcdkBrbkoCcwckBjckfBqccBpdbfbbdafHjtBhlKrcfcBlcfchbabababBecC",
    "abgbadcbgddcfemfcbgEmanaqmDxaeacjbadegabababdbkcdfeearBoBFhBzCRuIugddbmBlbafacCdhaqwjgbgbgbg",
    "bgbgbgbgbBfBvaSbcziheceeDhgcbDlbdfBqbDprBfBwpTsJTnCmBGUeCpBtcKidpkbuBufhdEiBnicDycCocbbabhvt",
    "bBgyBzmCpbaBsfdabckBgfBinBcdByblpaqpkebCcjnswdCqbabayccpcdlfcfcfjgbgbBqbngEsvQNrmweBwMNcObcE",
    "bBmgmeflbmbebabbbbbEdBhNysClcCbBolEmebFeBkzgzlDkdfcfcfccBjlbzbsbbbocnBiEsCrCaKhBcdBwBvBfnBdf",
    "BqfBdcBjehbeBqGbsBjeBjeBniBzmkbobgbbbkbobgbbdBzmLyjvkhyfbBpbiCrfcabBrbbdacwkwjBeCnsbbkvkzCsC",
    "dgbCmdbbfhbcbBcBqBcdBcBjhbBbBbCbkvksnrEgCuCdBynBynBnBiBbdafwJqBpbbdbqcCdadBckaivBqrBuuBbwjCr",
    "BrekCejanyxByrdiBidajClbdjbkabaBjrbBhcagdCkgbabdbobjhCexdbhcbcvbgbbbedhcbcbdagafgBcjbacabBlb",
    "jbacabdbbdabaBsCnbcbducBeCncbbaHcCbcgzfBiCkbadaChCbcaCtBacnvgHdCeDzClBfhcachbbbBdbbcbcdDphcB",
    "tcfbabbBbBycjrCtfasCuHrBgBfibBsbgbaBxBdcvbnCvgbbbBrdabbbcbacbyfbbbBkbbbdbaMpwjqbBodcEhaDbBJl",
    "DyEgrHnDXkDspBPfrfzFXqfWkKDdBuCPdVwhBerDarBdsBvqdBfufsQqBsIdClEyCweCehqCmbbamboJBziBVpBpjNFr",
    "dbgbbbLepaBdccaodiPfDKuEcfmdihjeaIWfDgbCsbbcacbcdblbabgbCmbdchbgbBbbdbebadgbNbcybybBebybBeby",
    "bBebybBebybhCSyBegfIfgbqcgbbbefCjBhaEiBskgqaMjBdsBrSqBbIuBdcaTbgbdbbbobHoChCpdadaBUidbBabbba",
    "cabjbdbabagaeabababcbbbacabababababbbacdbgbdbdbabjbqfcbebqYezgzgzFMkCLFbBgGDtgIncINpoLBkpXxD",
    "QwUvCFyHHyfGFf"]

/-- The code points with the property `Bidi_Control`, packed. -/
def packedBidiControl : String :=
  "CIeaJVlbBaeCdd"

/-- The code points with the property `Bidi_Mirrored`, packed. -/
def packedBidiMirrored : String :=
  String.join [
    "BobsabaBcabaBdabaBtapaFMsdCUnbDQqbkbCcbobGvaHkddfdadbddbdbabaeifabrfdjbbabhbBfcdfajbcsfbjecb",
    "excpidubhbBPtnCwacdbbbcfdfcdnPnvcfbniahfdaeebbceeabccbkfcbmsbdcabacabdfbgcyblbedbbcbeBqchbBn",
    "fabadefceadebaJwaTvddbbbobcjBrhQljchDACrffbGgbsabaBcabaBdababbbbDDPnaCfaCfaCfaCfa"]

/-- The code points with the property `Case_Ignorable`, packed. -/
def packedCaseIgnorable : String :=
  String.join [
    "BnagalaBjabaCtaeabaeacbTjHjebeajbbaJrgHzafaBxBsbabbbbbaBsalfkkbaBjakuqaDxhbjbdBhabaBeBaDnkCg",
    "keacayxBrcBsahbfiBpCfCdabaeheadgkbnapaCgaediaubBaacbCfaebebccdaBebdalbCfaeebbeaubwfbaCgacabd",
    "iahblbBeaCjamaByadaCdabcfcbdhblbBdaCgacagafbubBcbCfbediaubBdaCuahcbaDmacgliDuacijabgCvbBbaba",
    "baCdnbebbfkbBjjaDydbfbbcbzbecqdnacbgapaDqaXkcBKkcBdbBebBebCmbbgiackdafaBteBzaCnbBiaEocebjagc",
    "IlbcaCgabgbabachgjcaBnaiBeBxdBwabebafaBoimbBgdcbbcCeabbdabcCghcbCmfDecbmbgeagadbByCknaBiDwRd",
    "abclcncncnbmeibkacaceBxebjbanaqmBzBgEJrbEjcEvapaDsBfBvaSbaBkddefaDpfDpcBQBuaBWcfKkaDudbjbaBc",
    "dDcboBhDaaxcDzcdbiadaeazbfaFvbBarnaBmhzkBucBwacdcbravbCofcbcbmaiaBjalaBzabccbfbbaBbaobfbbaDw",
    "ejcEracaeaBDZsaFrqWbpdampBiacaGnahagalaBjabaBvaBtbCpavcTtaIsaFteBNpfbBpbiWkcbbfdBoceaGjbWbdB",
    "maBaebaMdbDbdCskBxdEtaCcoBpacbkcBxdcbcaeakaBycBkebhCkambCaikdcaDrccabbgacaGbadhvbCfbdaBlgdeC",
    "sfnababaobDhhccbaxaDgfbaebbbJedgbbbBbbDhhcabbEcabacfbaDxabacdbeJzibbJwbbaeaFodcbeaBgjBofcdia",
    "jfccBumbbPqgbfbaDevcgbbbbEsfdabbbgbaCubdabaNjblbCaefabaxaHXdqgoQYyldcDSaeChgjdTocBobSoaClqCm",
    "bbbYGpdbgbbEUgbbdGYuBtcwUycjpcgBedFscCYdCceBxiaoaweboCAigbqcgbbbefCjBhaGenOeaCjdTneJubBCigEf",
    "hEBfeBSXXpaBeDrEyJf"]

/-- The code points with the property `Cased`, packed. -/
def packedCased : String :=
  String.join [
    "CnzgzBvakaeafwbBebHmbdeHzbBjhbBeeDsaBqdcbcdbagabcbabtbDebFiiGjbBljBoEFfBlbafacBqbdZwDhcfDFuk",
    "fBqccCmHjCmKrcfcBlcfchbabababBecCabgbadcbgddcfemfcbgEmanaqmDxaeacjbadegabababdbfeacdfeearBfd",
    "bBFlBzCRuIugddbmBlbafaBTWcBtsBdFcDxddbCjcbbabhvebcBFpBqbngDbBEAigmeBNtzgzBTtDbDsBjeBjEmkbobg",
    "bbbkbobgbbRjaccbBpbiBUzBynByDpvkvEFiClBGIqClBMLkDgbCsbbcacbcdblbabgbCmbdchbgbBbbdbebadgbNbcy",
    "bybBebybBebybBebybBebybhCSyjbtgfKbCjDGkCpDAazgzgz"]

/-- The code points with the property `Changes_When_Casefolded`, packed. -/
def packedChangesWhenCasefolded : String :=
  String.join [
    "CnzDmakwbhBgabababababababababababababababababababababababababababacababababababababbbababab",
    "abababababababababababababababababababbbabababbbabbbccdbbbcdbbbbababbbacabbbcbabbdahbbbbbbab",
    "ababababababacababababababababacbbabcbababababababababababababababababababababababababababab",
    "abahbbbcabdbabababaJmaBqabadaiagabcbabbbqbiwamcdbbababababababababababababbcbbabbcByBwababab",
    "abababababababababababababajabababababababababababababababababababababababababababbbabababab",
    "abacabababababababababababababababababababababababababababababababababababababababababababab",
    "abababacBlBwaEFgBlbafaBFefDFujgBqccMiabababababababababababababababababababababababababababa",
    "babababababababababababababababababababababababababababababababababababababababababababababa",
    "bafbcabababababababababababababababababababababababababababababababababababababababababababa",
    "bababababajhifkhihiflabababaihqBvcccffccfldmefccfLladbgaBtptaBFmzCSuBvBwabccabababdbacaicbab",
    "abababababababababababababababababababababababababababababababababababababababababababababab",
    "abaiabaeaBTYjababababababababababababababababababababababatabababababababababababababaFfabab",
    "ababababadababababababababababababababababababababababababababababababakababbbabababaeabacab",
    "adababababababababababebebabababababababdbabbdafabababayaBIgDbBEAigmeBNtzBUzBnFgBjGakbobgbbC",
    "QcByGbvEGoBfBGJwBfBULkBh"]

/-- The code points with the property `Changes_When_Casemapped`, packed. -/
def packedChangesWhenCasemapped : String :=
  String.join [
    "CnzgzCgakwbBebClbDfbBbcncbbaeDobrgBabbbabbdbbdbecabbcahacabbdffakbGkaBqdcbdcbagabcbabtbBudBg",
    "bebFciGjbBlkBmEFgBlbafacBqccZwDhcfDFukfBqccHdadaqaEjFzcabEncfcBlcfchbabababBecCabgbadcbgddcf",
    "emfcbgLladbgaBbarBfdbBFlBzCRuEibbbbhDxhddbmBlbafaBTWcBtsBbFencCjjodccebybBdcbegybBHcaBcDbBEA",
    "igmeBNtzgzBTtDbDsBjeBjEmkbobgbbbkbobgbbCOpBynByDpvkvEFiClBGIqClBUKeCp"]

/-- The code points with the property `Changes_When_Lowercased`, packed. -/
def packedChangesWhenLowercased : String :=
  String.join [
    "CnzDxwbgBhabababababababababababababababababababababababababababacabababababababacababababab",
    "ababababababababababababababababababbbabadbbabbbccdbbbcdbbbbababbbacabbbcbabbdahbbbbbbababab",
    "ababababacababababababababacbbabcbababababababababababababababababababababababababababababah",
    "bbbcabdbabababaLdabadaiagabcbabbbqbiBjaiabababababababababababafacabbcByBwababababababababab",
    "abababababababajabababababababababababababababababababababababababababbbabababababacabababab",
    "abababababababababababababababababababababababababababababababababababababababababababacBlEH",
    "dBlbafaBBuDhDGlagBqccMiababababababababababababababababababababababababababababababababababa",
    "babababababababababababababababababababababababababababababababababababababababajabababababa",
    "bababababababababababababababababababababababababababababababababababababababababababajhifkh",
    "ihiflabababaihyhihihieleldmeleLladbgaBtptaBFmzCSuBvBwabccabababdbacaicbababababababababababa",
    "babababababababababababababababababababababababababababababababababababababaiabaeaBTYjababab",
    "abababababababababababababababababababatabababababababababababababaFfababababababadababababa",
    "babababababababababababababababababababababababababakababbbabababaeabacabadababababababababa",
    "babebebabababababababdbabbdafabababayaBHAhzBUzBnFgBjGakbobgbbCQcByGbvEGoBfBGJwBfBULkBh"]

/-- The code points with the property `Changes_When_Titlecased`, packed. -/
def packedChangesWhenTitlecased : String :=
  String.join [
    "DtzCgaBpxbhbabababababababababababababababababababababababababababacabababababababbbabababab",
    "ababababababababababababababababababacababccabacadafacadccacababacaeacadabacadabaeabbbbbabab",
    "ababababababbbababababababababcbabadabababababababababababababababababababadabababababababab",
    "aiacbbaeababababfbbbabbdbbdbecabbcahacabbdffakbGkaBrabadadcsaBbBibbdcbababababababababababab",
    "ebacacaCaBvbababababababababababababababababajababababababababababababababababababababababab",
    "abababacababababababbbababababababababababababababababababababababababababababababababababab",
    "ababababababababababababaBxBmFMefDFuibaJeadaqaEkabababababababababababababababababababababab",
    "abababababababababababababababababababababababababababababababababababababababababababababab",
    "ababababababgfababababababababababababababababababababababababababababababababababababababab",
    "ababababababababiifkhihifkhihinchihihiebbgadcbbidcbihkcbbNeaBhpeaBGlzCTqBvbadbbababagacakaba",
    "babababababababababababababababababababababababababababababababababababababababababababababa",
    "babaiabaeamBlbafaBTWdababababababababababababababababababababababatababababababababababababa",
    "baFfababababababadababababababababababababababababababababababababababababababakabacabababab",
    "aeaeabbcabababababababababalabababababababaeabacadafababaBaaBHcaBcDbBEAigmeBOzzBVhBnFgBjFzkb",
    "obgbbCRbByEvvEGoBfBGJwBfBULmBh"]

/-- The code points with the property `Changes_When_Uppercased`, packed. -/
def packedChangesWhenUppercased : String :=
  String.join [
    "DtzCgaBpxbhbabababababababababababababababababababababababababababacabababababababbbabababab",
    "ababababababababababababababababababacababccabacadafacadccacababacaeacadabacadabafbbbbbbabab",
    "abababababbbababababababababbbbbadabababababababababababababababababababadababababababababai",
    "acbbaeababababfbbbabbdbbdbecabbcahacabbdffakbGkaBrabadadcsaBbBibbdcbabababababababababababeb",
    "acacaCaBvbababababababababababababababababajabababababababababababababababababababababababab",
    "ababacababababababbbabababababababababababababababababababababababababababababababababababab",
    "abababababababababababaBxBmEHcBqccBDgfDFuibaJeadaqaEkabababababababababababababababababababa",
    "babababababababababababababababababababababababababababababababababababababababababababababa",
    "bababababababababgfababababababababababababababababababababababababababababababababababababa",
    "bababababababababababiifkhihifkhihincCabbeabadcbbeaddcbihkcbbeaMzaBhpeaBGlzCTqBvbadbbababaga",
    "cakababababababababababababababababababababababababababababababababababababababababababababa",
    "bababababaiabaeamBlbafaBTWdababababababababababababababababababababababatabababababababababa",
    "babababaFfababababababadababababababababababababababababababababababababababababababakabacab",
    "abababaeaeabbcabababababababababalabababababababaeabacadafababaBaaBHcaBcDbBEAigmeBOzzBVhBnFg",
    "BjFzkbobgbbCRbByEvvEGoBfBGJwBfBULmBh"]

/-- The code points with the property `Dash`, packed. -/
def packedDash : String :=
  "BtaCAuaBzaFKjaBNpaDBdfCjaBnapaPaaEOiacaBfbeaBcaReataEhaCZWabBlakaGnaFLoaMga"

/-- The code points with the property `Default_Ignorable_Code_Point`, packed. -/
def packedDefaultIgnorableCodePoint : String :=
  "GraZxaBBoaEGwbCKhbDheDApeBaeBxpGKyaCZMppJfaGeaDbiCTLndHWxhBTKZlGBn"

/-- The code points with the property `Deprecated`, packed. -/
def packedDeprecated : String :=
  "MraBYvaDKtabaDCjbDIjfBAvbBZRYka"

/-- The code points with the property `Diacritic`, packed. -/
def packedDiacritic : String :=
  String.join [
    "DqabaCtagaeacbTjGcbhffrbeajbJteIbaCdqbBababbbaFehebFebebdcCpBaDnkCgkBibEwhBpjqBbCjaqaddBcaCw",
    "aqaEgaqaEgaqaBvcCiaqahaEpaEgaqaEgaqaEfbqaEuaEhamfbaEdaneCxbBbababaebCocbbCkaEiabbBobeezgbakb",
    "BBdcBKmbBeaFskjaNjcLgauhcaBwockEaapaBmiCcbCgalbCobCmfDeyeagaccByCkDllBlkRdabclcncncnbEXkcMfa",
    "TmfEbdDraBSMkambbaBcbDeboBhDycEfbmaBlaFvaBbrCfdBkaDramaBkaFtcCndBzaDwejcEybBDZsaBDppKkabaBva",
    "BtbCpaBDkaBTnfbBpbiYnceaGjbVzfBmaBaePjcCskBxdHkaBpaCubEqbCkaCyajcEabGwbDcbqaygdeDlcbbnbDrada",
    "EtbJrbEwaEobElaKjbJybeaGaaDfasaDdaQfaJyabbDdaQjbxaHYaoQZpaDSaeChgVsbVaqDcbYGcdbgbbLThBtcwUyc",
    "dfihcgBedFMwCjHmgOlaCjdBDmbBCigEfcbc"]

/-- The code points with the property `Emoji`, packed. -/
def packedEmoji : String :=
  String.join [
    "BjagafjEhaeaLYramaIiawaDmfpbOdbmaGkazkecHraIxbkajaCgdbejacacbcaeacabbcadadbicfabafllbcabbbas",
    "acbsfbabbdbfacbeblbfbcafbbabbubffbdcaeacacfbacababagadagakbpacaeabaecbalbBwcjaoaoaOibRvctbBz",
    "aeaBVuamaXdabaGMRqaHuaGebmboacjCxzbbxauacivbGsBhcEhcbbccDeccbKcbCklfbxhbchmacdcaebnbcaibjafc",
    "mciccabaeagadagDhBwCrfhccejdabbdacjItleaKxBubjbHcEimdjfCdhockgi"]

/-- The code points with the property `Emoji_Component`, packed. -/
def packedEmojiComponent : String :=
  "BjagafjMBjaIfaDFTraDOIwzTneCEadBSVUqDr"

/-- The code points with the property `Emoji_Modifier`, packed. -/
def packedEmojiModifier : String :=
  "HHIxe"

/-- The code points with the property `Emoji_Modifier_Base`, packed. -/
def packedEmojiModifierBase : String :=
  String.join [
    "OLhaIlaqdGSJvaCiccaccEnbckvsdaecbchabayaHtbeavaebGscdeDfaqcjalaWdacaihgajjccCeaCjbbbbarcbmIv",
    "cBqi"]

/-- The code points with the property `Emoji_Presentation`, packed. -/
def packedEmojiPresentation : String :=
  String.join [
    "NHqbHxddacaUbbvbBylBratanaibrbfbiafavahbbaeacahaebBcaBjabaecbaCjcyaoaBHbbBzaeaGPLeaHuaHiacjC",
    "xzbayauacebcvbGsBgmibCrbvmBqeemqdadCsbabHecCkndbxsaBabnaDiDgBwCrgadcccedlbhiItleaKxBubjbHcEi",
    "mdjfCdhockgi"]

/-- The code points with the property `Extended_Pictographic`, packed. -/
def packedExtendedPictographic : String :=
  String.join [
    "GnaeaLYramaIiawaDmfpbOdbmaDraCsazkecHraIxbkajaCgdbfblbEjkEnckbabagadagakbpacaeabaecbaleBtcja",
    "oaoaOibRvctbBzaeaBVuamaXdabaGMRmJvncBfaCifmboacjsCeBbokauacibdjQrfMfiKfBwExEmlDhBqmdCehkfBoh",
    "BeDdmBubjbQyJwBNh"]

/-- The code points with the property `Extender`, packed. -/
def packedExtender : String :=
  String.join [
    "HbaUqbBHuaQzaYgaFhaDlaBCyaExaDNfaCeaXnaPiaCqaHKjaBreDzbDpcBQBuaCGsaBLaawaFhaEeavbBFZvaDBkbCF",
    "baBbaeaBVbaLhaEmbTecBVjaBEOfbBTkbbaBQYabBUfaBGuc"]

/-- The code points with the property `Grapheme_Base`, packed. -/
def packedGraphemeBase : String :=
  String.join [
    "BgDqBhmbWvEihcfegbabtbIphGjbBlcBxccBuabacacajBaefrjlabBtvpbDwiagbcaeBfcabBdBdDklaoBqjgdxeaja",
    "dahobyfabkfBerBpCfCcbabdidbchjcBcbbbhcbcvbgbadddabbgbcbbanbbcexfabfebcvbgbbbbbbecydbahjccbam",
    "abibcbvbgbbbeddiabbdapbelhaibbhcbcvbgbbbedacagbcbpbbcerlabfdcbddbbabbdbdcdlfabbdcbcdavugcbhb",
    "cbwbpdaddtccacbejhjbkbcbwbjbedbcabbybbbejbcokbcbBocabbfcbcbbecbjezcbbrdxbibacgjbgghjccmBvbbl",
    "himBlbbabebxbabjbbjacebajjcdBgxcBabababnbBjsafaceBxhbfbmBlBseagacbcycddpembbcfbobBnbafacOmbd",
    "cgbabdcBobdcBgbdcgbabdcobCebdcCofBcdzgDhcfcZsdDkhrnsdbjrombcpBzcahhbblidjgjgkfjgDkhecBhbafCr",
    "kBeedccebbfhadBpcelBrezgkdCecbdCdbajabbifnjgjgnDiBvkddhbBcjlcBfebgCdbaccbanBvibfodCjfBqcklan",
    "ahdbfbccafHjCmKrcfcBlcfchbabababBecCabobncfbsccbibkfxhBwqbcBabmdBgClFjeZpwkvCRrcBfbNfdbfBsba",
    "facCdhbpwjgbgbgbgbgbgbgbgBhDpBizbDkmIfBaCfgpbDheDwfBqbDpbDhjBvbBRIqdCcjNjuBueakBfcDbcfiHxcbb",
    "abhvpbcbdbyceejgCdiCpklymbBliylamBdgBvbbebcbbmbkegbybBogbcblcbhbacjcBfbBybadbcecabayqchlfcfc",
    "fjgbgbCheEmbbbddjgQNrmweBwMNcObcEbBmgmefabxbebabbbbbEuqRccCbhaBgpqjwBibsbdeebFeeGacBedfcfcfc",
    "cdgbgnbclbzbsbbbocnBiEsfceBsdDjbmdaBvBsFbBcdBwqBaeBjjBdfBlkBdbBkenBqGbcjgBjeBjeBniBzllbobgbb",
    "bkbobgbbdBzmLyjvkhyfbBpbiCrfcabBrbbdacwbCtiiBwsbbfBgdBafaCmCdetcBupdbcbBckihihClBgBkgljCbdBc",
    "cBafzhdmgDcCuCdBynByhBpmjgBlixibIaBebBpdacbqcChBnivliwredBmBbuwjabCbpgeBdbbcamBwebcbbdoyhjjB",
    "jfajriBibclBzjabhebbpbtlrbBbdbefbbClgbabdbobkgBubcnjibbhcbcvbgbbbedababdcbcbdamgBcjbacabBlba",
    "bbpabbdabcbbBnCdibdabubabcBeBvbbgabbbacacdijGkBubbgdcacBaBkByibbacdljgmtBqbabbibgjgtBcBadabb",
    "eajwHdBujacaDwDemhcachbbbxbebbgdbcjjCshcBpidbdBbakBngbehjagbdBtnacinCuhjHaBhojgibBloabfkBcdB",
    "fzahacaCxgbbbBlvajjgfbbbBkebbabahjLyscdjobBjibdwDiapBxnBJmDyEgbelHnDXkDunBPfrfzFXqfWkKDdBdmc",
    "djCOsVwhBebjeDcbjgBdhakBvhokjbgbufsQqCfHqDmDxCwfCdlmCmdBcJBziBVpBpjNFrdbgbbbLepaBdccaodiPfDK",
    "uEcfmdihjcacaFVkJpgQtGaElCiJlkBmcChfcwbhBdeCivCndaEstmtmDijyFfDgbCsbbcacbcdblbabgbCmbdchbgbB",
    "bbdbebadgbNbcLfcVpCddByhbnbgBRwBegfKbCjFqBskgcjebMiBdsBrejfaRwBbejIgBdckeaSmgbdbbbobHociBwCp",
    "haejebBEfCpCyCiHmdbBabbbacabjbdbabagaeabababcbbbacabababababbbacdbgbdbdbabjbqfcbebqCabKkBreD",
    "vmocobobBkkGrCeBcnBreihbofFyBLveqdmdEoeDqgleapleCdijgBniBdclebCkNbmncmdjfCdhockgihFqbDxBNqCL",
    "FbBgGDtgIncINpoLBkpXxDQwUvCFyHHyfGFf"]

/-- The code points with the property `Grapheme_Extend`, packed. -/
def packedGraphemeExtend : String :=
  String.join [
    "BDoEhKpgKdBsbabbbbbaCukBwuqaDxgcfcbbdBjaBeBaDnkCgijaydbibcbeBrcChiBqxbBfCdabaeheadgkbBdaCgab",
    "acdiajakbBaacbCfaebebccdaBebdalbCfaeebbeaubwfbaCgabbbdiahckbBeaChabamajaBoadaCdabcfcbdhblbBd",
    "aCgacbbadcbdhblbBcbCfbbacdiajakbBdaCuaeaccbaiaDdacgmhDuacilgCvbBbababaCdnbebbfkbBjjaDydbfbbc",
    "bzbecqdnacbgapaBBbcBKkdBccBdbBebCmbbgiackjaBtcbaEnbBiaEocebjagcIlbcaCgabgbabachgjcaBwBeBxdBw",
    "jecBmimbBgdcfCeabbdabeCehcbFwcbmbgeagadbHqClUeaHnBgEOccFlaDsBfVifEbbBSQedbjBgbDcbKmadaeazbfa",
    "FvbBarnaBmhzkbaBscBwacdcbcaBkaCpfcbcbmaiaBvaBzabccbfbbaBqbiaJeacaeaBDZsaBCjpqpOcbXhaIsaFteCM",
    "gcbbfdBoceaGjbWbdCneMfbDbdCskBxdEtaCcoBpacbkcBxdcbhaCjcBkebhCkambCaibaidcaDrccdgacaGbadhvbCf",
    "bbabamajaogdeCpacfbacabcecbaobDhhccbaxaDdacfbacabbbbJbacdgbbbBbbDhhcabbEcabachDxabacdbeJzibb",
    "JlakdeaFodcbeaBgjBofcdiajfccBumbbPqgbfbaDevcgbbbbEsfdabbbgbaCubdabaNjblbCaefcxaHXtagoQYyldcD",
    "SaeChgBOiaCldDdalbBDAxbGYzBtcwUwedfihcgBedFscCYdCceBxiaoaweboCAigbqcgbbbeDwaGegOlaCjdTodJubB",
    "CigEfgBTCAfDrEyJf"]

/-- The code points with the property `Grapheme_Link`, packed. -/
def packedGraphemeLink : String :=
  String.join [
    "DNpaExaExaExaExaExaExaExaEfbqaEuaEhaExaHtaGybCPlbBeaGbaZdaItaDxbCsbGQtaBUKkaBlaFvaFmaEeaLxaJ",
    "maBJSraCHiaBpaoaCfaErbFjaEmaGyaDuaEycEjaExaJsaExaEoaEmaKjaJzbGfaDfasaDdaQfaKabDdaQjbYZca"]

/-- The code points with the property `Hex_Digit`, packed. -/
def packedHexDigit : String :=
  "BwjhfBafDSLljhfBaf"

/-- The code points with the property `Hyphen`, packed. -/
def packedHyphen : String :=
  "BtaExaBVwaGZzaDBdbFIbaBClaCZUlaGnaDja"

/-- The code points with the property `IDS_Binary_Operator`, packed. -/
def packedIdsBinaryOperator : String :=
  "SEabcjTda"

/-- The code points with the property `IDS_Trinary_Operator`, packed. -/
def packedIdsTrinaryOperator : String :=
  "SEcb"

/-- The code points with the property `IDS_Unary_Operator`, packed. -/
def packedIdsUnaryOperator : String :=
  "SEob"

/-- The code points with the property `ID_Compat_Math_Continue`, packed. -/
def packedIdCompatMathContinue : String :=
  "GwbfaMAgadkboOhaeawaGJJeazaBfazaBfazaBfazaBfaza"

/-- The code points with the property `ID_Compat_Math_Start`, packed. -/
def packedIdCompatMathStart : String :=
  "MWwaeawaGJJeazaBfazaBfazaBfazaBfaza"

/-- The code points with the property `ID_Continue`, packed. -/
def packedIdContinue : String :=
  String.join [
    "BwjhzeabzBvakabacafwbBebRpeloehabarEmbbcdbagebabtbDebFibecGjbBlcagBoiBsbabbbbbaiBaedBdkfCveD",
    "xbhcjbscaqCgcDwoCbeacacBtsBbekfxbfiCwbEycjbsbhcbcvbgbaddcicbcdiaebbeclkabaccbfebcvbgbbbbbbca",
    "beebccdahdbahplcbibcbvbgbbbecjbcbccapdcjjgbcbhcbcvbgbbbecicbcchcebbecjbaqbbfdcbddbbabbdbdcdl",
    "eedcbdcagaojqmbcbwbpcibcbdhbbccacdcjqdbhbcbwbjbecibcbdhbgbbdcjbcmmbcbBybcbefdhecjkfbcbrdxbib",
    "acgdaefbabhgjcbnCffobjBnbbabebxbabwcebabgbjcdBgaxbgjlababaejbBjetbrbBjjaCfCvgCzcBlbafacBqbMu",
    "bdcgbabdcBobdcBgbdcgbabdcobCebdcCoccjiopqDhcfdXvcqbzfCwdkhvjvltmmbcbbmDfdaebcjBhcbkgDkhBqfCr",
    "kBeblelkBncelBrezgkBlBbeCkbBcckgjnainbpBxCydjrimElmCdijdBwckfBqccqcbBmfUncfcBlcfchbabababBec",
    "CabgbadcbgddcfemfcbgpbBxbtaBcanaqmBzmeadlraeacjbacfgabababpcdfeearBoDZbIugimBlbafacCdhapxjgb",
    "gbgbgbgbgbgbgbBfTxczobeceeDhcgbDqfBqbDprBfBwpTsJTnCmBGUeCpBtcKidBbuBvejbEkBlicDycCocbbabhvCb",
    "eatBzmCrkjgxdabBwcBjmBcdCmokgBebCcjncjgwdCuyccpcekfcfcfjgbgbBqbngEsbbcjgQNrmweBwMNcObcEbBmgm",
    "eflbmbebabbbbbEdBhNysClcCbBolepqpdbycBgebFetjhzeabzkDldfcfcfccBjlbzbsbbbocnBiEsCrCaFgaFaBcdB",
    "wpaBfBfnBdfBqfBdcBjehbeBqGbcjgBjeBjeBniBzmkbobgbbbkbobgbbdBzmLyjvkhyfbBpbiCrfcabBrbbdacwkwjB",
    "eCnsbbkvkzCsCdgbCmdbbfhbcbBccceaBgBcdBcBjhbBdzCbkvksnrEgCuCdBynBynBnijgBldebwJqBpbbdbqcCdBgk",
    "aiBgBfvBquBbwjCsBfpjChhanyhjgCabjediBjcajCqedbmbaBjrbBkgdCkgbabdbobjhCgfjgdbhcbcvbgbbbebjcbc",
    "ccagafgcgdeljbacabBlbjbacabdbhnbBdCwfjedBeCrbaijGkCbcixfBiCmdaljBmCehjgtBcBacoejggHdCgDxCvvh",
    "cachbbbBdbbcimjCshcBtchbbBbCkiaiCvdasCuHrBgpjgibBsbipjyBdcvbnCvgbbbBrdabbbiijgfbbbBkbbbfhjLy",
    "wjqbBodenkDhaDbBJlDyEgrHnDXkDspBPfqvkFXqfWkKDdCfCOsVwhBebjgDabjgBdcelCcjdmjjufsQqBsdjHqClEyC",
    "weCehqCmbbblboJBziBVpBpjNFrdbgbbbLepaBdccaodiPfDKuEcfmdihjdbGErjTyBtcwUwedfihcgBedFscRbDgbCs",
    "bbcacbcdblbabgbCmbdchbgbBbbdbebadgbNbcybybBebybBebybBebybBebybhcBxTsCceBxiaoaweboBQmBegfIfgb",
    "qcgbbbefCjBhaEiBsdncjeaMjBerCfScBpIgBqSrgbdbbbobHolgBpCxejBTudbBabbbacabjbdbabagaeabababcbbb",
    "acabababababbbacdbgbdbdbabjbqfcbebqFAajBNqCLFbBgGDtgIncINpoLBkpXxDQwUvCFyHHyfGFfBONHgJf"]

/-- The code points with the property `ID_Start`, packed. -/
def packedIdStart : String :=
  String.join [
    "CnzgzBvakaeafwbBebRpeloehabaEzebbcdbagabcbabtbDebFiiGjbBlcagBoCtBaedBtBqBjbbDubapbhbkccaqabB",
    "dBdDklayBgjbeafveajadaxyhkfxbfrBpCgCbdasahjppehcbcvbgbadddaqanbbcobkaifebcvbgbbbbbbBfdbatcqi",
    "bcbvbgbbbedasapbxalhcbcvbgbbbedaBebbcparabfdcbddbbabbdbdcdlwaCahbcbwbpdaBaccacbBeaehbcbwbjbe",
    "daBfbbbpbribcbBocaqafcicyffrdxbibacgCgBvbbmgCgbbabebxbabjbbjacebavdBgaClhbBjBbeElBquaqfeddad",
    "bhcemmarBlbafacBqbMubdcgbabdcBobdcBgbdcgbabdcobCebdcCoBlpqDhcfdXvcqbzfCwdkhrnsorombcpBzBjaea",
    "CpDkhBobafCrkBeBxBdcelBrezCcwjCaDeaDpBurhCcBdnbkBrBaBjBpckBjckfBqccBpdbfbbdafHjCmKrcfcBlcfch",
    "babababBecCabgbadcbgddcfemfcbgEmanaqmDxaeacjbacfgabababpcdfeearBoDZbIugddbmBlbafacCdhaqwjgbg",
    "bgbgbgbgbgbgVecziheceeDheebDlbdfBqbDprBfBwpTsJTnCmBGUeCpBtcKidpkbuBuqBecDbBnicDycCocbbabhvpb",
    "cbdbwBdBzoBxCkfdabblBbkwzBchBuBcaqebjkebBoxcbhuwdadBxbadbcecabaycckhcmfcfcfjgbgbBqbngEkBdQNr",
    "mweBwMNcObcEbBmgmefabjbmbebabbbbbEdBhNysClcCbBolEmebFeBkzgzlDkdfcfcfccBjlbzbsbbbocnBiEsCrCaK",
    "hBcdBwBvBfnBdfBlkBdcBjehbeBqGbsBjeBjeBniBzmkbobgbbbkbobgbbdBzmLyjvkhyfbBpbiCrfcabBrbbdacwkwj",
    "BeCnsbbkvkzCsCdgbCmapdbcbBcBqBcdBcBjhbBbBbCbkvksnrEgCuCdBynBynBjBmBbjwJqBpgbqcChBckaivBqrBuu",
    "BbwmCaCfbcanBsBgyBaBjBdacaiBidamBvodvabaBjrbytbClgbabdbobjhBuBmhcbcvbgbbbedasameBejbacabBlba",
    "zabaBsCasducBeBvubbaHcBuBpdBkBvuaChBqnaCtBaBlgHdBrEmClBfhcachbbbxpabaDqhcBmqabaBcakBnhavalBt",
    "tasCuHrBgBfibBkraBxBdEigbbbBlvazfbbbBfoaMpspabmbBhEuaDbBJlDyEgrHnDXkDspBPfrfzFXqfWkKDdBdCPuV",
    "whBerDarBdsBvqdBfufsQqBsIdClEyCwfaComCmbbaBcJBziBVpBpjNFrdbgbbbLepaBdccaodiPfDKuEcfmdihjIWkD",
    "gbCsbbcacbcdblbabgbCmbdchbgbBbbdbebadgbNbcybybBebybBebybBebybBebybhCSyBegfKbCjFqBskgqaMjBdsB",
    "rSqBbIuBdcaTbgbdbbbobHoChCphaBUidbBabbbacabjbdbabagaeabababcbbbacabababababbbacdbgbdbdbabjbq",
    "fcbebqGOaCLFbBgGDtgIncINpoLBkpXxDQwUvCFyHHyfGFf"]

/-- The code points with the property `Ideographic`, packed. -/
def packedIdeographic : String :=
  String.join [
    "SEwbziocBLdJTnCmBFBjBHSiObcEbBSIkaBbJBziBVpBpjNUlPfBDEiCLFbBgGDtgIncINpoLBkpXxDQwUvCFyHHyfGF",
    "f"]

/-- The code points with the property `Join_Control`, packed. -/
def packedJoinControl : String :=
  "MDob"

/-- The code points with the property `Logical_Order_Exception`, packed. -/
def packedLogicalOrderException : String :=
  "FKieEteEDsccaCCXmbcabb"

/-- The code points with the property `Lowercase`, packed. -/
def packedLowercase : String :=
  String.join [
    "DtzBvakaeaBkxbhbabababababababababababababababababababababababababababbbabababababababbbabab",
    "ababababababababababababababababababababacababccabacadbeacadccacababacabbbacadabacbccgacacab",
    "abababababababbbababababababababbcabadababababababababababababababababababababababababababab",
    "ababgcacbbaeababababCqbBjhbBeeDsaBrabadacdsaBbBibbdcbabababababababababababebacacbBzBvbababa",
    "babababababababababababababajababababababababababababababababababababababababababacababababa",
    "babbbabababababababababababababababababababababababababababababababababababababababababababa",
    "babababaBwBoEHbBqbdBDgfDFuibaEnHjCnababababababababababababababababababababababababababababa",
    "babababababababababababababababababababababababababababababababababababababababababababababi",
    "babababababababababababababababababababababababababababababababababababababababababababababa",
    "bababiifkhihifkhihinchihihiebbgadcbbidcbihkcbbEranaqmEfadbdaBbaeaeacbideaBhpeaBGlzCTqBvbadbb",
    "ababaeabbbhdabababababababababababababababababababababababababababababababababababababababab",
    "abababababababababbhabaeamBlbafaBTWdababababababababababababababababababababababatababababab",
    "ababababababababcFdababababababcbabababababababababababababababababababababababababababababa",
    "bjbabacababababaeabacabcbabababababababababafafabababababababaeabacadabababababawcbabcBFpBqb",
    "ngDbBEAigmeBOzzBVhBnFgBjFzkbobgbbRjaccbBpbiBXlByEvvEGoBfBGJwBfBMMkzBagbrBazBadbabgbkBazBazBa",
    "zBazBazBazBazBazBaBbBcybfBaybfBaybfBaybfBaybfbaCSyjbtgfKbCjDHsBh"]

/-- The code points with the property `Math`, packed. -/
def packedMath : String :=
  String.join [
    "BraqcBfaBdabaBtaeaBlaBfaBCaccaBabccUhcJWnaBbcladanaodveleCnmeadbeesaeacjbacfgadbcbbcbfdnbaCq",
    "xbfbbebeBfbagboKhidubDmaBeBabayalgRdbmjefebcbdeoabacflhfbCfabaBddjcMyClJwTrBwucfDASqaBFrfbaG",
    "gaqcBdabaBdabaFbagdFEfbCXDwDgbCsbbcacbcdblbabgbCmbdchbgbBbbdbebadgbNbcLfcBxIIqdbBabbbacabjbd",
    "babagaeabababcbbbacabababababbbacdbgbdbdbabjbqfcbebqCab"]

/-- The code points with the property `Modifier_Combining_Mark`, packed. -/
def packedModifierCombiningMark : String :=
  "CKibcaFbagadbSnbbcdaBfa"

/-- The code points with the property `Noncharacter_Code_Point`, packed. -/
def packedNoncharacterCodePoint : String :=
  "DSDcBfUgbDSYobDSYobDSYobDSYobDSYobDSYobDSYobDSYobDSYobDSYobDSYobDSYobDSYobDSYobDSYobDSYob"

/-- The code points with the property `Other_Alphabetic`, packed. -/
def packedOtherAlphabetic : String :=
  String.join [
    "BGfaBdmWenbabbbbbaCukBwmbgqaDxgedcbeaBjaBepDykDxbdibcbdEcaCildggtCcbcobbfckbBdcCggcbcbkakbBd",
    "cCgeebcbeaBebdalcCghbcbbvbwcecCggcbcbjbkbBeaChedcbckaBoeCfgbcbciblbBdcCggbcbciblbpamdCggbcbc",
    "kakbBdcCxfbabhsbCjacgsaDvacfbbqaGhsjkbBjEglbacdxdecbccgddnlbakdCLobBebBebBebCosHgbBiaEoleiIo",
    "eCfjctCwblcBxeBwoCicBeicbCfkBysPwBhCOnBzDKgBfBTQahBibNqaiaxeDkbBypbaCfaBmeBclBtdBwlBlaCpnmai",
    "bBtcByabccbfaBsefaJdhBDZvaDEdeCMgcbbfdBEidCnaMjbDbaJzcCbnBtblcBtijaCjcBklsbCfcBwmobDoicagaca",
    "GbjxdCggcbcbkakbDgibacabdbbDzmbcEcrJdgcgBdbDeobaEckDznJxmJnfbbcbdabaFmgcfeaBcjBqebdskBunPrhb",
    "gDfvbnEsfdabbbcbadaCoebbbdNkdjbbaBwgdcYYnqFJcabCchdDpbBDAyaNKjgbqcgbbbeDwaDHvaCZwzgzgz"]

/-- The code points with the property `Other_Default_Ignorable_Code_Point`, packed. -/
def packedOtherDefaultIgnorableCodePoint : String :=
  "BGpaFIlbCKhbDHnaGLiaDACpaDbiBWMIhabBdDsExJgFIl"

/-- The code points with the property `Other_Grapheme_Extend`, packed. -/
def packedOtherGraphemeExtend : String :=
  String.join [
    "DRyayaNuayaDyayaIyabaebbbjbDzayaEpapaDMraBeaBNkafabafbDxaCtbBOiaGCvbBTWtaEeaBGNlbGWmaEmaKeao",
    "ajaDsajacabcfaIqamaJhaKcaYjamaCHfaBEOkbBKXnbgfBTLAzDr"]

/-- The code points with the property `Other_ID_Continue`, packed. -/
def packedOtherIdContinue : String :=
  "HbaBBraGAjiCLcaCIzbGKraDAEja"

/-- The code points with the property `Other_ID_Start`, packed. -/
def packedOtherIdStart : String :=
  "JHlbDGjavaFVwb"

/-- The code points with the property `Other_Lowercase`, packed. -/
def packedOtherLowercase : String :=
  "GoapaThihbBeeDsaCaaFCzaEPzCknaBiBkBAnanaqmIdpBGqzCWobBUGkbIcaEzcdbBHidjaBIWsaccbBpbiDDZhCj"

/-- The code points with the property `Other_Math`, packed. -/
def packedOtherMath : String :=
  String.join [
    "DqaBHxccaBabcbKQyaBbclaBgdybobCnmeadbeesaeacjbadegadbcbbcbfddfeCxecdbbbbbabecbebercbbabgbagb",
    "LedGmbbayaraRdbmifefbcbdeoabacfybCfabaBddjbNebBfjPnvCldBgbDCLfabaeaIdabaDCOvDgbCsbbcacbcdblb",
    "abgbCmbdchbgbBbbdbebadgbNbcybybBebybBebybBebybBebybhcBxIIqdbBabbbacabjbdbabagaeabababcbbbaca",
    "bababababbbacdbgbdbdbabjbqfcbebq"]

/-- The code points with the property `Other_Uppercase`, packed. -/
def packedOtherUppercase : String :=
  "MQqpBGgzGSIyzgzgz"

/-- The code points with the property `Pattern_Syntax`, packed. -/
def packedPatternSyntax : String :=
  "BhokgBadbaBadBigbabbbabbeaeadaxaBfaLUexiocsbjLtBBrGeYfBeBRnTsExOvceypaCZQzbKbb"

/-- The code points with the property `Pattern_White_Space`, packed. -/
def packedPatternWhiteSpace : String :=
  "jesaDwaLYmbyb"

/-- The code points with the property `Prepended_Concatenation_Mark`, packed. -/
def packedPrependedConcatenationMark : String :=
  "CHcfIhaBxaOubDcaDVXyapa"

/-- The code points with the property `Quotation_Mark`, packed. -/
def packedQuotationMark : String :=
  "BiaeaFbapaLWuhzbFIdaRpdncDABpdHhaeaDmb"

/-- The code points with the property `Radical`, packed. -/
def packedRadical : String :=
  "RPwzbDkmIf"

/-- The code points with the property `Regional_Indicator`, packed. -/
def packedRegionalIndicator : String :=
  "HGOkz"

/-- The code points with the property `Sentence_Terminal`, packed. -/
def packedSentenceTerminal : String :=
  String.join [
    "BhamaqaCAbaFrcGyaBrcJmaCjabadbLhbCPwbBEkaebBDtaHqbGbbBtafaMcbNqdGgbkbcbBdcHfbCnbBJwaxbjcEUxc",
    "LuanawbQnaBSHwaKkbItadaOsbDibDraFwbFrcFobJpaBFCwacbChadbGnamaqaCnaEDwbBXdeBsdHhbEndExcEzbgaq",
    "bDkbbbEeaLmbEnbOjbfoEbbJpcTxabaJrbDjbQebBAqbCwbBCMbbFdaCnblaVhbLkaBDOgaLIma"]

/-- The code points with the property `Soft_Dotted`, packed. -/
def packedSoftDotted : String :=
  String.join [
    "EbbHoaKvaBeaCaauaMiaDuabaJMnaBzanadaFcaGbaQfaIgbEGgaGELhbBybBybBybBybBybBybBybBybBybBybBybBy",
    "bDFyaLtbBaa"]

/-- The code points with the property `Terminal_Punctuation`, packed. -/
def packedTerminalPunctuation : String :=
  String.join [
    "BhakabalbdaBFyaiaTtaCfaCuaoabcGyaBrkbaJbbCcfbhBfaKbbBWubGqaefLzbBEjhBDtaEucCtbGbcdaBndcbMcbN",
    "qdGgbkbbcBdcHfeCkbBJwaxbjcEUxcLuanaeakabbdbQmbBSHvbKjcIteOsbDibDraFvcFrcExaqbJpaBFCwacbCfcbd",
    "GnakabalbdaCnacaBPqaBwaBSoaHraLybFwfCqfDldBKqeBsdHhgEidExcEzbgaqbDkeEeaLmbEncmbNuddoEbbJpcTx",
    "abaJrbDjbebPycBtaYvbCwbBYxeBAMzbFdaCnckaVhbLjbBDOgaLIld"]

/-- The code points with the property `Unified_Ideograph`, packed. -/
def packedUnifiedIdeograph : String :=
  "TSaJTnCmBFBjBICsbbabbkababbccDVEcCLFbBgGDtgIncINpoLBkpXxGRqHHyfGFf"

/-- The code points with the property `Uppercase`, packed. -/
def packedUppercase : String :=
  String.join [
    "CnzDxwbgBhabababababababababababababababababababababababababababacabababababababacababababab",
    "ababababababababababababababababababbbabadbbabbbccdbbbcdbbbbababbbacabbbcbabbdahacacacababab",
    "ababababacababababababababacacabcbababababababababababababababababababababababababababababah",
    "bbbcabdbabababaLdabadaiagabcbabbbqbiBjaccdabababababababababababafacabbcByBwabababababababab",
    "ababababababababajabababababababababababababababababababababababababababbbabababababacababab",
    "ababababababababababababababababababababababababababababababababababababababababababababacBl",
    "EHdBlbafaBBuDhDGlagBqccMiabababababababababababababababababababababababababababababababababa",
    "bababababababababababababababababababababababababababababababababababababababababajababababa",
    "babababababababababababababababababababababababababababababababababababababababababababajhif",
    "khihiflabababaihCudmdmdmeldKcaeadccccadegabababdcdkbfaBaptaBFmzCSuBvBwabccabababdbacaicbabab",
    "abababababababababababababababababababababababababababababababababababababababababababababab",
    "aiabaeaBTYjababababababababababababababababababababababatabababababababababababababaFfababab",
    "abababadababababababababababababababababababababababababababababababakababbbabababaeabacabad",
    "ababababababababababebebabababababababdbabbdafabababayaBHAhzBUzBnFgBjGakbobgbbCQcByGbvEGoBfB",
    "GJwBfBMMqzBazBazBaabbcacbcdbhBazBabbdchbgBbbbdbebadgBbzBazBazBazBazBazBeyBhyBhyBhyBhyBhaGNlB",
    "hDBizgzgz"]

/-- The code points with the property `Variation_Selector`, packed. -/
def packedVariationSelector : String :=
  "JCtcbaDJCapBWNKyJf"

/-- The code points with the property `White_Space`, packed. -/
def packedWhiteSpace : String :=
  "jesaDwaBaaIHjaDPnkBdbfaBvaFXwa"

/-- The code points with the property `XID_Continue`, packed. -/
def packedXidContinue : String :=
  String.join [
    "BwjhzeabzBvakabacafwbBebRpeloehabarEmbbdcbagebabtbDebFibecGjbBlcagBoiBsbabbbbbaiBaedBdkfCveD",
    "xbhcjbscaqCgcDwoCbeacacBtsBbekfxbfiCwbEycjbsbhcbcvbgbaddcicbcdiaebbeclkabaccbfebcvbgbbbbbbca",
    "beebccdahdbahplcbibcbvbgbbbecjbcbccapdcjjgbcbhcbcvbgbbbecicbcchcebbecjbaqbbfdcbddbbabbdbdcdl",
    "eedcbdcagaojqmbcbwbpcibcbdhbbccacdcjqdbhbcbwbjbecibcbdhbgbbdcjbcmmbcbBybcbefdhecjkfbcbrdxbib",
    "acgdaefbabhgjcbnCffobjBnbbabebxbabwcebabgbjcdBgaxbgjlababaejbBjetbrbBjjaCfCvgCzcBlbafacBqbMu",
    "bdcgbabdcBobdcBgbdcgbabdcobCebdcCoccjiopqDhcfdXvcqbzfCwdkhvjvltmmbcbbmDfdaebcjBhcbkgDkhBqfCr",
    "kBeblelkBncelBrezgkBlBbeCkbBcckgjnainbpBxCydjrimElmCdijdBwckfBqccqcbBmfUncfcBlcfchbabababBec",
    "CabgbadcbgddcfemfcbgpbBxbtaBcanaqmBzmeadlraeacjbacfgabababpcdfeearBoDZbIugimBlbafacCdhapxjgb",
    "gbgbgbgbgbgbgbBfTxczobeceeDhcbccbDqfBqbDprBfBwpTsJTnCmBGUeCpBtcKidBbuBvejbEkBlicDycCocbbabhv",
    "CbeatBzmCrkjgxdabBwcBjmBcdCmokgBebCcjncjgwdCuyccpcekfcfcfjgbgbBqbngEsbbcjgQNrmweBwMNcObcEbBm",
    "gmeflbmbebabbbbbEdBhFigIjsClcCbBojgpqpdbycBhabadababababEvtjhzeabzkDldfcfcfccBjlbzbsbbbocnBi",
    "EsCrCaFgaFaBcdBwpaBfBfnBdfBqfBdcBjehbeBqGbcjgBjeBjeBniBzmkbobgbbbkbobgbbdBzmLyjvkhyfbBpbiCrf",
    "cabBrbbdacwkwjBeCnsbbkvkzCsCdgbCmdbbfhbcbBccceaBgBcdBcBjhbBdzCbkvksnrEgCuCdBynBynBnijgBldebw",
    "JqBpbbdbqcCdBgkaiBgBfvBquBbwjCsBfpjChhanyhjgCabjediBjcajCqedbmbaBjrbBkgdCkgbabdbobjhCgfjgdbh",
    "cbcvbgbbbebjcbcccagafgcgdeljbacabBlbjbacabdbhnbBdCwfjedBeCrbaijGkCbcixfBiCmdaljBmCehjgtBcBac",
    "oejggHdCgDxCvvhcachbbbBdbbcimjCshcBtchbbBbCkiaiCvdasCuHrBgpjgibBsbipjyBdcvbnCvgbbbBrdabbbiij",
    "gfbbbBkbbbfhjLywjqbBodenkDhaDbBJlDyEgrHnDXkDspBPfqvkFXqfWkKDdCfCOsVwhBebjgDabjgBdcelCcjdmjju",
    "fsQqBsdjHqClEyCweCehqCmbbblboJBziBVpBpjNFrdbgbbbLepaBdccaodiPfDKuEcfmdihjdbGErjTyBtcwUwedfih",
    "cgBedFscRbDgbCsbbcacbcdblbabgbCmbdchbgbBbbdbebadgbNbcybybBebybBebybBebybBebybhcBxTsCceBxiaoa",
    "weboBQmBegfIfgbqcgbbbefCjBhaEiBsdncjeaMjBerCfScBpIgBqSrgbdbbbobHolgBpCxejBTudbBabbbacabjbdba",
    "bagaeabababcbbbacabababababbbacdbgbdbdbabjbqfcbebqFAajBNqCLFbBgGDtgIncINpoLBkpXxDQwUvCFyHHyf",
    "GFfBONHgJf"]

/-- The code points with the property `XID_Start`, packed. -/
def packedXidStart : String :=
  String.join [
    "CnzgzBvakaeafwbBebRpeloehabaEzebbdcbagabcbabtbDebFiiGjbBlcagBoCtBaedBtBqBjbbDubapbhbkccaqabB",
    "dBdDklayBgjbeafveajadaxyhkfxbfrBpCgCbdasahjppehcbcvbgbadddaqanbbcobkaifebcvbgbbbbbbBfdbatcqi",
    "bcbvbgbbbedasapbxalhcbcvbgbbbedaBebbcparabfdcbddbbabbdbdcdlwaCahbcbwbpdaBaccacbBeaehbcbwbjbe",
    "daBfbbbpbribcbBocaqafcicyffrdxbibacgCgBvbangCgbbabebxbabjbakacebavdBgaClhbBjBbeElBquaqfeddad",
    "bhcemmarBlbafacBqbMubdcgbabdcBobdcBgbdcgbabdcobCebdcCoBlpqDhcfdXvcqbzfCwdkhrnsorombcpBzBjaea",
    "CpDkhBobafCrkBeBxBdcelBrezCcwjCaDeaDpBurhCcBdnbkBrBaBjBpckBjckfBqccBpdbfbbdafHjCmKrcfcBlcfch",
    "babababBecCabgbadcbgddcfemfcbgEmanaqmDxaeacjbacfgabababpcdfeearBoDZbIugddbmBlbafacCdhaqwjgbg",
    "bgbgbgbgbgbgVecziheceeDhgcbDlbdfBqbDprBfBwpTsJTnCmBGUeCpBtcKidpkbuBuqBecDbBnicDycCocbbabhvpb",
    "cbdbwBdBzoBxCkfdabblBbkwzBchBuBcaqebjkebBoxcbhuwdadBxbadbcecabaycckhcmfcfcfjgbgbBqbngEkBdQNr",
    "mweBwMNcObcEbBmgmefabjbmbebabbbbbEdBhFigIjsClcCbBojEpabadababababEvBkzgzlCdcBedfcfcfccBjlbzb",
    "sbbbocnBiEsCrCaKhBcdBwBvBfnBdfBlkBdcBjehbeBqGbsBjeBjeBniBzmkbobgbbbkbobgbbdBzmLyjvkhyfbBpbiC",
    "rfcabBrbbdacwkwjBeCnsbbkvkzCsCdgbCmapdbcbBcBqBcdBcBjhbBbBbCbkvksnrEgCuCdBynBynBjBmBbjwJqBpgb",
    "qcChBckaivBqrBuuBbwmCaCfbcanBsBgyBaBjBdacaiBidamBvodvabaBjrbytbClgbabdbobjhBuBmhcbcvbgbbbeda",
    "sameBejbacabBlbazabaBsCasducBeBvubbaHcBuBpdBkBvuaChBqnaCtBaBlgHdBrEmClBfhcachbbbxpabaDqhcBmq",
    "abaBcakBnhavalBttasCuHrBgBfibBkraBxBdEigbbbBlvazfbbbBfoaMpspabmbBhEuaDbBJlDyEgrHnDXkDspBPfrf",
    "zFXqfWkKDdBdCPuVwhBerDarBdsBvqdBfufsQqBsIdClEyCwfaComCmbbaBcJBziBVpBpjNFrdbgbbbLepaBdccaodiP",
    "fDKuEcfmdihjIWkDgbCsbbcacbcdblbabgbCmbdchbgbBbbdbebadgbNbcybybBebybBebybBebybBebybhCSyBegfKb",
    "CjFqBskgqaMjBdsBrSqBbIuBdcaTbgbdbbbobHoChCphaBUidbBabbbacabjbdbabagaeabababcbbbacabababababb",
    "bacdbgbdbdbabjbqfcbebqGOaCLFbBgGDtgIncINpoLBkpXxDQwUvCFyHHyfGFf"]

/-- The properties: the names of each in normal form, and its packed set. -/
def table : List (List String × String) :=
  [(["ahex", "asciihexdigit"], packedAsciiHexDigit),
   (["alpha", "alphabetic"], packedAlphabetic),
   (["bidic", "bidicontrol"], packedBidiControl),
   (["bidim", "bidimirrored"], packedBidiMirrored),
   (["caseignorable", "ci"], packedCaseIgnorable),
   (["cased"], packedCased),
   (["changeswhencasefolded", "cwcf"], packedChangesWhenCasefolded),
   (["changeswhencasemapped", "cwcm"], packedChangesWhenCasemapped),
   (["changeswhenlowercased", "cwl"], packedChangesWhenLowercased),
   (["changeswhentitlecased", "cwt"], packedChangesWhenTitlecased),
   (["changeswhenuppercased", "cwu"], packedChangesWhenUppercased),
   (["dash"], packedDash),
   (["defaultignorablecodepoint", "di"], packedDefaultIgnorableCodePoint),
   (["dep", "deprecated"], packedDeprecated),
   (["dia", "diacritic"], packedDiacritic),
   (["emoji"], packedEmoji),
   (["ecomp", "emojicomponent"], packedEmojiComponent),
   (["emod", "emojimodifier"], packedEmojiModifier),
   (["ebase", "emojimodifierbase"], packedEmojiModifierBase),
   (["emojipresentation", "epres"], packedEmojiPresentation),
   (["extendedpictographic", "extpict"], packedExtendedPictographic),
   (["ext", "extender"], packedExtender),
   (["graphemebase", "grbase"], packedGraphemeBase),
   (["graphemeextend", "grext"], packedGraphemeExtend),
   (["graphemelink", "grlink"], packedGraphemeLink),
   (["hex", "hexdigit"], packedHexDigit),
   (["hyphen"], packedHyphen),
   (["idsb", "idsbinaryoperator"], packedIdsBinaryOperator),
   (["idst", "idstrinaryoperator"], packedIdsTrinaryOperator),
   (["idsu", "idsunaryoperator"], packedIdsUnaryOperator),
   (["idcompatmathcontinue"], packedIdCompatMathContinue),
   (["idcompatmathstart"], packedIdCompatMathStart),
   (["idc", "idcontinue"], packedIdContinue),
   (["ids", "idstart"], packedIdStart),
   (["ideo", "ideographic"], packedIdeographic),
   (["joinc", "joincontrol"], packedJoinControl),
   (["loe", "logicalorderexception"], packedLogicalOrderException),
   (["lower", "lowercase"], packedLowercase),
   (["math"], packedMath),
   (["mcm", "modifiercombiningmark"], packedModifierCombiningMark),
   (["nchar", "noncharactercodepoint"], packedNoncharacterCodePoint),
   (["oalpha", "otheralphabetic"], packedOtherAlphabetic),
   (["odi", "otherdefaultignorablecodepoint"], packedOtherDefaultIgnorableCodePoint),
   (["ogrext", "othergraphemeextend"], packedOtherGraphemeExtend),
   (["oidc", "otheridcontinue"], packedOtherIdContinue),
   (["oids", "otheridstart"], packedOtherIdStart),
   (["olower", "otherlowercase"], packedOtherLowercase),
   (["omath", "othermath"], packedOtherMath),
   (["otheruppercase", "oupper"], packedOtherUppercase),
   (["patsyn", "patternsyntax"], packedPatternSyntax),
   (["patternwhitespace", "patws"], packedPatternWhiteSpace),
   (["pcm", "prependedconcatenationmark"], packedPrependedConcatenationMark),
   (["qmark", "quotationmark"], packedQuotationMark),
   (["radical"], packedRadical),
   (["regionalindicator", "ri"], packedRegionalIndicator),
   (["sentenceterminal", "sterm"], packedSentenceTerminal),
   (["sd", "softdotted"], packedSoftDotted),
   (["term", "terminalpunctuation"], packedTerminalPunctuation),
   (["uideo", "unifiedideograph"], packedUnifiedIdeograph),
   (["upper", "uppercase"], packedUppercase),
   (["variationselector", "vs"], packedVariationSelector),
   (["space", "whitespace", "wspace"], packedWhiteSpace),
   (["xidc", "xidcontinue"], packedXidContinue),
   (["xids", "xidstart"], packedXidStart)]

/-- The code points of the property behind a name in normal form. -/
def named (name : String) : Option CodeSet :=
  (table.find? fun entry => entry.1.contains name).map fun entry => Packed.codeSet entry.2

/-- The code points that count as letters of an alphabet. -/
def alphabetic : CodeSet := Packed.codeSet packedAlphabetic

/-- The blanks: spaces, tabs and the characters that end or part lines. -/
def whiteSpace : CodeSet := Packed.codeSet packedWhiteSpace

/-- The characters that extend the one before them. -/
def graphemeExtend : CodeSet := Packed.codeSet packedGraphemeExtend

/-- The two characters that join or part their neighbours. -/
def joinControl : CodeSet := Packed.codeSet packedJoinControl

/-- Names of further properties that Unicode defines and no set is kept for. -/
def withoutSet : List String :=
  Packed.words
    (String.join [
      "bc bidiclass bidimirroringglyph bidipairedbracket bidipairedbrackettype blk block bmg bpb ",
      "bpt canonicalcombiningclass casefolding ccc ce cf changeswhennfkccasefolded ",
      "cjkaccountingnumeric cjkcompatibilityvariant cjkiicore cjkirggsource cjkirghsource ",
      "cjkirgjsource cjkirgkpsource cjkirgksource cjkirgmsource cjkirgssource cjkirgtsource ",
      "cjkirguksource cjkirgusource cjkirgvsource cjkothernumeric cjkprimarynumeric cjkrsunicode ",
      "compex compositionexclusion cwkcf decompositionmapping decompositiontype dm dt ea ",
      "eastasianwidth equideo equivalentunifiedideograph expandsonnfc expandsonnfd expandsonnfkc ",
      "expandsonnfkd fcnfkc fcnfkcclosure fullcompositionexclusion hangulsyllabletype hst incb ",
      "indicconjunctbreak indicpositionalcategory indicsyllabiccategory inpc insc isc ",
      "jamoshortname jg joininggroup joiningtype jsn jt kaccountingnumeric kcompatibilityvariant ",
      "kehcat kehdesc kehhg kehifao kehjsesh kehnomirror kehnorotate kiicore kirggsource ",
      "kirghsource kirgjsource kirgkpsource kirgksource kirgmsource kirgssource kirgtsource ",
      "kirguksource kirgusource kirgvsource kothernumeric kprimarynumeric krsunicode lb lc ",
      "linebreak lowercasemapping na na1 name namealias nfcqc nfcquickcheck nfdqc nfdquickcheck ",
      "nfkccasefold nfkccf nfkcqc nfkcquickcheck nfkcscf nfkcsimplecasefold nfkdqc ",
      "nfkdquickcheck nt numerictype numericvalue nv ocomment scf sfc simplecasefolding ",
      "simplelowercasemapping simpletitlecasemapping simpleuppercasemapping slc stc suc tc ",
      "titlecasemapping uc unicode1name unicoderadicalstroke uppercasemapping urs ",
      "verticalorientation vo xonfc xonfd xonfkc xonfkd"])

end Binary
end Unicode
end StreamEditor
