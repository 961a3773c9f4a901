/-
# General categories of Unicode characters

Every code point has exactly one general category, named by two letters; a name of one letter
stands for all categories that begin with it, and `LC` for the three cased kinds of letter.
The module holds the partition of the code points, packed, and answers which code points a
name stands for.

Key definitions: `Category.partition`, `Category.members`, `Category.named`.
-/
import StreamEditor.Unicode.Packed

namespace StreamEditor
namespace Unicode
namespace Category

/-- The runs of equal general category over all code points, packed. -/
def packed : String :=
  String.join [
    "aBfaaaBdacvaaxacvaawaasaavaazaavaarabvajnabvaczabvazjaawaavaasaayaaqaayazfaawaazaasaazaBgaaa",
    "BdaavadxaaBaaavaayaaBaaahaauaazaabaaBaaayaaBaaazabpaayaafabvaayaapaahaatacpaavawjaazagjaxfaa",
    "zahfaajaafaajaafaajaafaajaafaajaafaajaafaajaafaajaafaajaafaajaafaajaafaajaafaajaafaajaafaaja",
    "afaajaafaajaafaajaafaajaafaajaafaajaafaajaafaajaafaajaafaajaafaajaafaajaafaajabfaajaafaajaaf",
    "aajaafaajaafaajaafaajaafaajaafaajabfaajaafaajaafaajaafaajaafaajaafaajaafaajaafaajaafaajaafaa",
    "jaafaajaafaajaafaajaafaajaafaajaafaajaafaajaafaajaafaajaafaajaafaajaafaajaafaajaafabjaafaaja",
    "afaajacfabjaafaajaafabjaafacjabfadjaafabjaafacjacfabjaafabjaafaajaafaajaafabjaafaajabfaajaaf",
    "abjaafacjaafaajaafabjabfaahaajacfadhaajaaiaafaajaaiaafaajaaiaafaajaafaajaafaajaafaajaafaajaa",
    "faajaafaajaafaajabfaajaafaajaafaajaafaajaafaajaafaajaafaajaafaajaafaajabfaajaaiaafaajaafacja",
    "afaajaafaajaafaajaafaajaafaajaafaajaafaajaafaajaafaajaafaajaafaajaafaajaafaajaafaajaafaajaaf",
    "aajaafaajaafaajaafaajaafaajaafaajaafaajaafaajaafaajaafaajaafaajaafaajaafaajaafaajagfabjaafab",
    "jabfaajaafadjaafaajaafaajaafaajaafaajaCqfaahaBafargadyalganyaegagyaagaayaagaqyaEhmaajaafaaja",
    "afaagaayaajaafabcaagacfaavaajadcabyaajaavacjaacaajaacabjaafaqjaacaijaBifaajabfacjacfaajaafaa",
    "jaafaajaafaajaafaajaafaajaafaajaafaajaafaajaafaajaafaajaafaajaefaajaafaazaajaafabjabfaByjaBv",
    "faajaafaajaafaajaafaajaafaajaafaajaafaajaafaajaafaajaafaajaafaajaafaajaafaajaafaajaafaajaafa",
    "ajaafaajaafaaBaaemablaajaafaajaafaajaafaajaafaajaafaajaafaajaafaajaafaajaafaajaafaajaafaajaa",
    "faajaafaajaafaajaafaajaafaajaafaajaafaajaafaajaafaajaafaajaafaajaafaajaafaajaafaajaafaajaafa",
    "bjaafaajaafaajaafaajaafaajaafaajaafaajabfaajaafaajaafaajaafaajaafaajaafaajaafaajaafaajaafaaj",
    "aafaajaafaajaafaajaafaajaafaajaafaajaafaajaafaajaafaajaafaajaafaajaafaajaafaajaafaajaafaajaa",
    "faajaafaajaafaajaafaajaafaajaafaajaafaajaafaajaafaajaafaajaafaajaafaajaafaajaafaajaafaajaafa",
    "ajaafaajaafaajaafaajaafaajaafaajaafaajaafaajaafaajaafaacaBljabcaagafvaBofaavaarabcabBaaaxaac",
    "aBsmaaraamaavabmaavabmaavaamahcaBahadcadhabvakcafbaczabvaaxabvabBaakmaavaabacvaBfhaagajhauma",
    "jnadvabhaamaDuhaavaahagmaabaaBaafmabgabmaaBaadmabhajnachabBaaahanvaacaabaahaamaBdhaBamabcaDk",
    "hakmaahancajnaBghaimabgaaBaacvaagabcaamabxavhadmaagaimaagacmaagaemabcaovaacayhacmabcaavaacak",
    "haecaxhaayafhaacabbaecaimaBohaagaxmaabaBfmaakaCbhaamaakaamaahackahmadkaamabkaahagmajhabmabva",
    "jnaavaagaohaamabkaacahhabcabhabcavhaacaghaacaahaccadhabcaamaahackadmabcabkabcabkaamaahahcaak",
    "adcabhaacachabmabcajnabhabxafpaaBaaaxaahaavaamabcabmaakaacafhadcabhabcavhaacaghaacabhaacabha",
    "acabhabcaamaacackabmadcabmabcacmaccaamagcadhaacaahagcajnabmachaamaavajcabmaakaacaihaacachaac",
    "avhaacaghaacabhaacaehabcaamaahackaemaacabmaakaacabkaamabcaahaocabhabmabcajnaavaaxagcaahafmaa",
    "caamabkaacahhabcabhabcavhaacaghaacabhaacaehabcaamaahaakaamaakadmabcabkabcabkaamagcabmaakadca",
    "bhaacachabmabcajnaaBaaahafpajcaamaahaacafhaccachaacadhaccabhaacaahaacabhaccabhaccachaccalhad",
    "cabkaamabkaccackaacackaamabcaahafcaakancajnacpafBaaaxaaBaaecaamackaamahhaacachaacawhaacaphab",
    "caamaahacmadkaacacmaacadmagcabmaacachabcaahabcabhabmabcajnagcaavagpaaBaaahaamabkaavahhaacach",
    "aacawhaacajhaacaehabcaamaahaakaamaekaacaamabkaacabkabmagcabkafcabhaacabhabmabcajnaacabhaakal",
    "cabmabkaihaacachaacaBohabmaahackadmaacackaacackaamaahaaBaadcachaakagpachabmabcajnaipaaBaafha",
    "acaamabkaacarhaccaxhaacaihaacaahabcaghaccaamadcackacmaacaamaacahkafcajnabcabkaavalcaBvhaamab",
    "hagmadcaaxafhaagahmaavajnabvaBkcabhaacaahaacaehaacaxhaacaahaacajhaamabhaimaahabcaehaacaagaac",
    "agmaacajnabcadhaBfcaahacBaaovaaBaaavacBaabmafBaajnajpaaBaaamaaBaaamaaBaaamaawaasaawaasabkahh",
    "aacaBjhadcanmaakaemaavabmaehakmaacaBjmaacahBaaamafBaaacabBaaevadBaabvaBkcaBqhabkadmaakafmaak",
    "abmabkabmaahajnafvafhabkabmadhacmaahackabhagkachadmamhaamabkabmafkaamaahaakajnackaamabBaaBlj",
    "aacaajaecaajabcaBqfaavaagacfaMqhaacadhabcaghaacaahaacadhabcaBohaacadhabcaBghaacadhabcaghaaca",
    "ahaacadhabcaohaacaCehaacadhabcaCohabcacmaivatpaccaphajBaafcaDhjabcaffabcaaraXvhaaBaaavaqhaaB",
    "dazhaawaasaccaCwhacvacoahhagcarhacmaakaicashabmaakabvaicarhabmalcamhaacachaacabmalcaBzhabmaa",
    "kagmahkaamabkakmacvaagacvaaxaahaamabcajnafcajpafcafvaaradvacmaabaamajnafcaBihaagaCahagcaehab",
    "maBhhaamaahaecaCrhajcaBehaacacmadkabmackadcabkaamafkacmadcaaBaaccabvajnaBdhabcaehakcaBrhadca",
    "zhafcajnaapaccaBhBaawhabmabkaamabcabvaCahaakaamaakagmaacaamaakaamabkahmafkajmabcaamajnafcajn",
    "afcagvaagafvabcanmaalapmaBwcadmaakaBuhaamaakaemaakaamaekaamabkahhaacabvajnagvajBaaimaiBaacva",
    "bmaakaBdhaakadmabkabmaakacmabhajnaBrhaamaakabmackaamaakacmabkahcadvaBjhahkahmabkabmaccaevajn",
    "accachajnaBdhafgabvaifaajaafaecaBqjabcacjahvahcacmaavammaakagmadhaamafhaamabhaakabmaahaecaBr",
    "faCkgamfaagaBhfaBkgaClmaajaafaajaafaajaafaajaafaajaafaajaafaajaafaajaafaajaafaajaafaajaafaaj",
    "aafaajaafaajaafaajaafaajaafaajaafaajaafaajaafaajaafaajaafaajaafaajaafaajaafaajaafaajaafaajaa",
    "faajaafaajaafaajaafaajaafaajaafaajaafaajaafaajaafaajaafaajaafaajaafaajaafaajaafaajaafaajaafa",
    "ajaafaajaafaajaafaajaafaajaafaajaafaajaafaajaafaajaafaajaafaajaafaajaafaajaafaajaafaajaafaaj",
    "aafaajaafaajaafaajaafaajaafaajaafaajaafaajaafaajaafaajaafaajaafaajaafaajaafaajaafaajaafaajaa",
    "faajaafaajaifaajaafaajaafaajaafaajaafaajaafaajaafaajaafaajaafaajaafaajaafaajaafaajaafaajaafa",
    "ajaafaajaafaajaafaajaafaajaafaajaafaajaafaajaafaajaafaajaafaajaafaajaafaajaafaajaafaajaafaaj",
    "aafaajaafaajaafaajaafaajaafaajaafaajaafaajaafaajaafaajaafaajaafaajaafaajaafaajaafaajaafaajaa",
    "faajaafaajaafaajaafaajaafaajaifahjaffabcafjabcahfahjahfahjaffabcafjabcahfaacaajaacaajaacaaja",
    "acaajahfahjanfabcahfahiahfahiahfahiaefaacabfadjaaiaayaafacyacfaacabfadjaaiacyadfabcabfadjaac",
    "acyahfaejacyabcacfaacabfadjaaiabyaacakBdaebafrabvaauaataawabuaataawaauahvaaBbaaBcaebaaBdaiva",
    "auaatadvabqacvaazaawaasakvaazaavaaqajvaaBdaebaacajbaapaagabcafpaczaawaasaagajpaczaawaasaacam",
    "gaccaBgxaocammadlaamaclalmaocabBaaajadBaaajabBaaafacjabfacjaafaaBaaajabBaaazaejafBaaajaaBaaa",
    "jaaBaaajaaBaadjaaBaaafadjaafadhaafabBaabfabjaezaajadfaaBaaazabBaaafaaBaappaBioaajaafadoaapab",
    "BaadcaezaeBaabzadBaaazabBaaazabBaaazagBaaazaBeBaabzabBaaazaaBaaazaBeBaaKhzahBaaawaasaawaasat",
    "BaabzagBaaawaasaDcBaaazaBdBaayzaBnBaafzaCtBaavcakBaaucaChpaCzBaavpaHaBaaazaiBaaazaCbBaahzaEg",
    "BaaazaJnBaaawaasaawaasaawaasaawaasaawaasaawaasaawaasaBdpaBrBaaezaawaasaBezaawaasaawaasaawaas",
    "aawaasaawaasapzaJvBaaFazaawaasaawaasaawaasaawaasaawaasaawaasaawaasaawaasaawaasaawaasaawaasaC",
    "kzaawaasaawaasaBfzaawaasaJxzaBvBaauzabBaafzaBmBaabcaBfBaaacaEaBaaBvjaBvfaajaafacjabfaajaafaa",
    "jaafaajaafadjaafaajabfaajaffabgacjaafaajaafaajaafaajaafaajaafaajaafaajaafaajaafaajaafaajaafa",
    "ajaafaajaafaajaafaajaafaajaafaajaafaajaafaajaafaajaafaajaafaajaafaajaafaajaafaajaafaajaafaaj",
    "aafaajaafaajaafaajaafaajaafaajaafaajaafaajaafaajaafaajaafaajaafaajaafaajaafaajaafaajaafaajaa",
    "faajaafaajaafaajaafaajaafaajaafaajaafaajaafaajaafaajabfafBaaajaafaajaafacmaajaafaecadvaapabv",
    "aBlfaacaafaecaafabcaCdhagcaagaavancaamawhaicaghaacaghaacaghaacaghaacaghaacaghaacaghaacaghaac",
    "aBfmabvaauaataauaatacvaauaataavaauaataivaarabvaaraavaauaatabvaauaataawaasaawaasaawaasaawaasa",
    "evaagajvabradvaaraavaawamvabBaacvaawaasaawaasaawaasaawaasaaraBhcazBaaacaDkBaalcaIfBaazcapBaa",
    "aBdacvaaBaaagaahaaoaawaasaawaasaawaasaawaasaawaasabBaaawaasaawaasaawaasaawaasaaraawabsaaBaai",
    "oadmabkaaraegabBaacoaagaahaavabBaaacaDhhabcabmabyabgaahaaraDlhaavacgaahaecaBqhaacaDphaacabBa",
    "adpajBaaBfhaBlBaaicaaBaaphaBeBaaacajpaBdBaahpaaBaaopaBfBaajpaBmBaaopaMhBaaJTnhaClBaaBFCehaag",
    "aBRyhaccaCcBaaicaBnhafgabvaKhhaagacvaphajnabhatcaajaafaajaafaajaafaajaafaajaafaajaafaajaafaa",
    "jaafaajaafaajaafaajaafaajaafaajaafaajaafaajaafaajaafaajaafaajaafaajaafaajaafaajaafaajaafaaja",
    "afaahaamaclaavajmaavaagaajaafaajaafaajaafaajaafaajaafaajaafaajaafaajaafaajaafaajaafaajaafaaj",
    "aafaajaafaajaafabgabmaCrhajoabmafvahcawyaigabyaajaafaajaafaajaafaajaafaajaafaajaafaajacfaaja",
    "afaajaafaajaafaajaafaajaafaajaafaajaafaajaafaajaafaajaafaajaafaajaafaajaafaajaafaajaafaajaaf",
    "aajaafaajaafaajaafaajaafaajaafaajaafaajaafaajaafaajaafaajaafaajaafaajaafaajaafaajaafaajaafaa",
    "gahfaajaafaajaafabjaafaajaafaajaafaajaafaajaafaagabyaajaafaajaafaahaajaafaajacfaajaafaajaafa",
    "ajaafaajaafaajaafaajaafaajaafaajaafaajaafaajaafaejaafaejaafaajaafaajaafaajaafaajaafaajaafaaj",
    "aafaajaafadjaafaajaafabjaafabcaajaafaacaafaacaafaajaafaajaafaajaafaajaucacgaajaafaahabgaafag",
    "haamachaamadhaamawhabkabmaakadBaaamaccafpabBaaaxaaBaafcaBzhadvahcabkaBxhapkabmahcabvajnafcar",
    "mafhacvaahaavabhaamajnaBbhahmabvawhakmabkakcaavaBchaccacmaakaBuhaamabkadmabkabmackamvaacaaga",
    "jnadcabvaehaamaagaihajnaehaacaBohafmabkabmabkabmaicachaamahhaamaakabcajnabcadvaphaagafhacBaa",
    "ahaakaamaakaBxhaamaahacmabhabmaehabmaahaamaahaxcabhaagabvakhaakabmabkabvaahabgaakaamajcafhab",
    "cafhabcafhaicaghaacaghaacaBqfaayadgaifaagabyadcaDbfaBihabkaamabkaamabkaavaakaamabcajnafcaQNr",
    "halcawhadcaBwhadcaDAteaJMddaObhabcaEbhaBlcagfalcaefaecaahaamajhaazamhaacaehaacaahaacabhaacab",
    "haacaEdhaqyapcaNyhaasaawapBaaClhabcaCbhagcaaBaaBfcalhaaxacBaapmagvaawaasaavafcapmaavabrabqaa",
    "waasaawaasaawaasaawaasaawaasaawaasaawaasaawaasabvaawaasadvacqacvaacadvaaraawaasaawaasaawaasa",
    "cvaazaaraczaacaavaaxabvadcaehaacaFehabcaabaacacvaaxacvaawaasaavaazaavaarabvajnabvaczabvazjaa",
    "waavaasaayaaqaayazfaawaazaasaazaawaasaavaawaasabvajhaagaBshabgaBehaccafhabcafhabcafhabcachac",
    "cabxaazaayaaBaabxaacaaBaadzabBaajcacbabBaabcalhaacazhaacashaacabhaacaohabcanhaBhcaEshaecacva",
    "dcaBspaccaiBaaCaoadpaqBaabpacBaaacamBaaccaaBaaBucaBsBaaamaEzcaBchaccaBwhaocaamaBapadcaBfhadp",
    "aicathaaoahhaaoaecaBlhaemaecaBdhaacaavaBjhadcahhaavaeoaBpcaBnjaBnfaCzhabcajnafcaBjjadcaBjfad",
    "caBnhahcaBzhakcaavakjaacaojaacagjaacabjaacakfaacaofaacagfaacabfaccaBzhalcaLyhaicavhajcahhaxc",
    "afgaacaBpgaacaigaCqcafhabcaahaacaBrhaacabhaccaahabcawhaacaavahpawhabBaagpaBehahcaipaBvcashaa",
    "cabhaecaepavhafpaccaavazhaecaavaClcaCdhadcabpabhappabcaBtpaahacmaacabmaecadmadhaacachaacaBch",
    "abcacmadcaamaipagcaivagcaBchabpaavaBchacpaBfcahhaaBaaBbhabmadcaepagvaicaCbhaccagvavhabcahpas",
    "haecahparhagcadvalcagpaDbcaCuhaCccaByjamcaByfagcafpaBjhadmahcajnafcajnadhaagaahavjaccaemaara",
    "agavfahcabzaHzcaBepaacaBphaacabmaarabcabhapcachaCccadmaBchajpaahahcavhakmadpaevavcarhadmadva",
    "BlcauhagpatcawhaicaakaamaakaCahaomagvadcatpajnaamabhabmaahaicacmaakaBshackadmabkabmabvaabadv",
    "aamajcaababcayhagcajnafcacmaBjhaemaakahmaacajnadvaahabkaahahcaBihaamabvaahaicabmaakaBvhackai",
    "mabkadhadvadmaavaakaamajnaahaavaahacvaacatpakcarhaacayhackacmabkaamaakabmafvaamabhaamaCjcagh",
    "aacaahaacadhaacaohaacajhaavafcaBuhaamackahmaecajnafcabmabkaacahhabcabhabcavhaacaghaacabhaaca",
    "ehaacabmaahabkaamadkabcabkabcackabcaahafcaakaecaehabkabcagmaccaemakcajhaacaahabcaahaacaBlhaa",
    "caahackafmaacaakabcaakaacadkaacabkaamaakaamaahaamaahabvaacabvahcabmaBccaCahackahmabkacmaakaa",
    "madhaevajnabvaacaavaamachaBdcaBvhackafmaakaamadkabmaakabmabhaavaahahcajnaGjcaBuhackadmabcadk",
    "abmaakabmawvadhabmaBhcaBvhackahmabkaamaakabmacvaahakcajnafcamvascaBqhaamaakaamabkafmaakaamaa",
    "haavafcajnafcatnaBbcaBahabcaamaakaamabkadmaakaemadcajnabpacvaaBaaghaHccaBrhackaimaakabmaavaD",
    "vcaBfjaBffajnaipalcahhabcaahabcahhaacabhaacaxhafkaacabkabcabmaakaamaahaakaahaakaamacvaicajna",
    "CrcahhabcaBmhackadmabcabmadkaamaahaavaahaakaBacaahajmaBnhafmaakaahadmahvaamahcaahafmabkacmaB",
    "thammaakabmacvaahaevamcaCuhagcajvaGzcaBghaavancajnafcaihaacaBkhaakagmaacafmaakaamaahaevajcaj",
    "naspaccabvaBdhabcavmaacaakagmaakabmaakabmaCucaghaacabhaacaBlhafmaccaamaacabmaacagmaahaamahca",
    "jnafcafhaacabhaacaBfhaekaacabmaacabkaamaakaamaahagcajnaLxcashabmabkabvagcabmaahaakamhaacaBhh",
    "abkaemaccabkaamaakaamamvajnaamaDgcaahaocaupahBaadxaqBaamcaavaBJlhaDxcaEgoaacaevakcaHnhaDXjca",
    "DshabvamcaBPfhapbaamafhaomajcaFXqhaecaWkhaKDccaBdhalmackacmajnaCOrcaVwhagcaBehaacajnadcabvaD",
    "ahaacajnafcaBdhabcaemaavajcaBvhagmaevadBaadgaavaaBaajcajnaacagpaacauhaecashaQpcacgaBnhabgacv",
    "ajnaHpcaBfjaBffawpadvaDwcaCwhadcaamaahaCckagcadmamgaClcabgaavaagaamakcabkancaJBzhahcaBVphaBo",
    "cajhaNFqcadgaacaggaacabgaacaLehaocaahaBccachabcaahancadhahcaPfhaDKtcaEchaecamhaccaihagcajhab",
    "caaBaabmaavadbaFVfcaJfBaajnafcaQtBaaCxcaBtmabcawmaicaElBaaChcaJlBaajcaBmBaabcaChBaabkacmacBa",
    "afkahbahmabBaagmaBdBaadmaCiBaaucaCnBaacmaaBaaErcatpalcatpalcaDiBaaicaypaFecazjazfazjagfaacar",
    "fazjazfaajaacabjabcaajabcabjabcadjaacahjadfaacaafaacagfaacakfazjazfabjaacadjabcahjaacagjaaca",
    "zfabjaacadjaacaejaacaajaccagjaacazfazjazfazjazfazjazfazjazfazjazfazjaBbfabcayjaazayfaazaffay",
    "jaazayfaazaffayjaazayfaazaffayjaazayfaazaffayjaazayfaazaffaajaafabcaBxnaTrBaaCcmadBaaBxmahBa",
    "aamanBaaamabBaaevaocaemaacaomaBQlcajfaahatfafcaffaIecagmaacaqmabcagmaacabmaacaemaecaCjgaBgca",
    "amaEhcaBshaccagmaggabcajnadcaahaaBaaMhcaBdhaamaqcaBrhadmajnaecaaxaRvcaBahaagadmajnaIfcaBdhab",
    "maahajnadcaavaSlcaghaacadhaacabhaacaohaacaHohabcaipagmaBocaBhjaBhfagmaagadcajnadcabvaBEecaCg",
    "paaBaacpaaxadpaCxcaBspaaBaaopaHlcadhaacaBahaacabhaacaahabcaahaacajhaacadhaacaahaacaahafcaaha",
    "dcaahaacaahaacaahaacachaacabhaacaahabcaahaacaahaacaahaacaahaacaahaacabhaacaahabcadhaacaghaac",
    "adhaacadhaacaahaacajhaacaqhaecachaacaehaacaqhaBzcabzaKjcaBrBaadcaDvBaalcaoBaabcaoBaaacaoBaaa",
    "caBkBaajcampaGeBaaCdcaBcBaamcaBrBaadcaiBaagcabBaancafBaaFxcaJqBaaeyaBBzBaadcaqBaaccamBaaccaE",
    "oBaadcaDqBaafcalBaadcaaBaaocalBaadcaCdBaahcajBaafcaBnBaahcaBdBaabcalBaadcabBaaCjcaNbBaalcanB",
    "aabcamBaaccajBaaecaCdBaagcaoBaabcakBaafcaiBaagcaFqBaaacaDnBaajnaBNpcaCLFbhaBfcaGDthafcaInhab",
    "caINphancaLBkhaocaXxhaDQvcaUvhaCFxcaHHyhaecaGFfhaBOMXkcaabaBdcaDrbaExcaJfmaDSFncaDSYndabcaDS",
    "Yndabc"]

/-- The partition of the code points by general category. -/
def partition : Partition :=
  ⟨Packed.words ("Cc Cf Cn Co Cs Ll Lm Lo Lt Lu Mc Me Mn Nd Nl No Pc Pd Pe Pf Pi Po Ps " ++
    "Sc Sk Sm So Zl Zp Zs"), Packed.runs packed⟩

/-- The names a category goes by, in normal form, each group headed by its short name. -/
def names : List (String × List String) :=
  [("C", ["c", "other"]),
   ("Cc", ["cc", "control", "cntrl"]),
   ("Cf", ["cf", "format"]),
   ("Cn", ["cn", "unassigned"]),
   ("Co", ["co", "privateuse"]),
   ("Cs", ["cs", "surrogate"]),
   ("L", ["l", "letter"]),
   ("LC", ["lc", "casedletter"]),
   ("Ll", ["ll", "lowercaseletter"]),
   ("Lm", ["lm", "modifierletter"]),
   ("Lo", ["lo", "otherletter"]),
   ("Lt", ["lt", "titlecaseletter"]),
   ("Lu", ["lu", "uppercaseletter"]),
   ("M", ["m", "mark", "combiningmark"]),
   ("Mc", ["mc", "spacingmark"]),
   ("Me", ["me", "enclosingmark"]),
   ("Mn", ["mn", "nonspacingmark"]),
   ("N", ["n", "number"]),
   ("Nd", ["nd", "decimalnumber", "digit"]),
   ("Nl", ["nl", "letternumber"]),
   ("No", ["no", "othernumber"]),
   ("P", ["p", "punctuation", "punct"]),
   ("Pc", ["pc", "connectorpunctuation"]),
   ("Pd", ["pd", "dashpunctuation"]),
   ("Pe", ["pe", "closepunctuation"]),
   ("Pf", ["pf", "finalpunctuation"]),
   ("Pi", ["pi", "initialpunctuation"]),
   ("Po", ["po", "otherpunctuation"]),
   ("Ps", ["ps", "openpunctuation"]),
   ("S", ["s", "symbol"]),
   ("Sc", ["sc", "currencysymbol"]),
   ("Sk", ["sk", "modifiersymbol"]),
   ("Sm", ["sm", "mathsymbol"]),
   ("So", ["so", "othersymbol"]),
   ("Z", ["z", "separator"]),
   ("Zl", ["zl", "lineseparator"]),
   ("Zp", ["zp", "paragraphseparator"]),
   ("Zs", ["zs", "spaceseparator"])]

/-- The two-letter categories that a short name stands for. -/
def parts (short : String) : List String :=
  if short == "LC" then ["Lu", "Ll", "Lt"]
  else partition.names.filter fun name => name == short || name.take 1 == short

/-- The code points of a category given by its short name. -/
def members (short : String) : CodeSet :=
  CodeSet.unions ((parts short).map partition.members)

/-- The short name behind a name in normal form. -/
def named (name : String) : Option String :=
  (names.find? fun entry => entry.2.contains name).map Prod.fst

end Category
end Unicode
end StreamEditor
