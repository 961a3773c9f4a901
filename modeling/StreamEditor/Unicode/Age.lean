/-
# The version of Unicode that assigned a character

The age of a code point is the version of Unicode in which it was assigned. A set named by an
age holds the code points of that version and of all versions before it.

Key definitions: `Age.partition`, `Age.upTo`.
-/
import StreamEditor.Unicode.Packed

namespace StreamEditor
namespace Unicode
namespace Age

/-- The runs of equal age, packed; unassigned code points are left out. -/
def packed : String :=
  String.join [
    "aThaaddaBdaahdaafaagardacgakhaniaDkaaedabgaBuaaadajaaedaqgaCraaidaafahgaehacgabaaadamfadjaba",
    "abjcaaaciaaaaapegabaabtabBraaajagaaadabfaaaaadaaaaadaaaaadaaaaadaraabeaafaegadhaadalaaadaCna",
    "aadalaaadaBoaaajabdabfaddaCaaabfabaabfabaabfaaiaBbaabdahaabhabaafiapfadiapjabkablahpbBlacgaa",
    "ataBmaaataaaaadcbpaambqbaahambajaaaiaiaaabachiBaaeataealdgaamaapaejaahaaaaigaejaaaaaoaaxaaha",
    "aaaalazaaejasaacdacgafhaalanaabfaCtaabdaeaaadaoaaadaBdaabgajaaedaagandbBddacgaBadccgaBdharja",
    "BwdaafoCgicctaBtkcokbBblcalbksfBexbbxfaBaahxaamaapakmafpabqaaxahrajwakxaataoraaqaBamaapaakac",
    "aaagaCaaablaraaakaalaeaaakablayaabjaelaapabkabiaahabiaapacabhacbacvabgabaaddacaaaagagacbacca",
    "aahiaaebabeacuaaakabsaatcagaaaaagbfaebacvabgabbabbabbacaabeaebaccadajhdabaahoaaajaatkcabgaaa",
    "gaaabcabvabgabbabeacjabcabcacaapaaacgcjaaamaaghaqafsbcabhacbacvabgabbabagadachaaajcbaccahawa",
    "baebabcaabjckaaagaflkbabfadcabdadbabaabbadbadcadhaaahacaeeadcabdacajgaaoahalaahgfapacaaataha",
    "bcabwabjaaapaeacaxaajagabcabdahbabbjaaqcaxcbaabjcjahauahjaaraapabaaatahabcabwabjabeacbgagabc",
    "abdahbagaxaaabbaabicjabbiaaymasaapabaaawahabcabwaaalapaaalabsaajafaaajbcabdaaalaarecraaaagra",
    "aqabaabjcjaafjacragjbawabdbrddxdbidbadcgddadefdbadbhdgjpccdmCfaeBcaBlbabaabauabaaauaaabauaaa",
    "afuadaaauagaaauacabaabaaabuabaaauamaaauacaceabaabfaaaybjacbaabmBgCtbbBgbaadabjeBabadlafbaada",
    "abbubacdagbaadaabacdbodbajaadabhacjadkablBlBhdaajaedaajabdaajagdacjaddafjazdaCljadkabjaBlaba",
    "mfamcBmaabfabhaaaaahacmaDlaaekaCpaaekaDdaafkagdaahaCkdaahaadbddcgdbadbddcBmdaahaadbddcBedaah",
    "aadbddcgdbadbddcgdaahagdbwdaahaBedaahaadbddcgdaahaBmdaahasdcblabhaBbddzhgDgdaaqcfqcakaYfdaik",
    "aBcddDcdahphmfaaxagfaaxjaxawfjtfmmfbcfbbfmDodaagcjdgjggodaaxajdgDjdaathBpdaajfCrkkBcgabpblge",
    "lgeagdBpgceglBphabkezhgjhaakdbhaBfgaBbhcbhaCkkbBckckkgjkgnkcopabwanxBxCxiaaxbbBaaBsiabxaaBaa",
    "BqjacmaljafmaBzlidlaCdjdojdByjairabBafBqtcctahmiBikadmaasabpaaufEdgaDjhagiaBbjaopadsaaxaaraa",
    "laakabiaFyaaabadjaDlaafjavacfacBlacfachabaabaabaabBeacCaaboabnacfabsaccabiabBuaaadawaaafafda",
    "efabgabhaafaghaefaajbdoagaaafcBaabehahldkaaabaacacdabfadhackaalaanacpaaqaasaaxpraabdagfaahad",
    "iaajpCeaabdaagaahaofaahabiaajackaBvaaadaaiadjaakabqeDmaaidalfaJhaanfaaaaadaEqaaadaafaBddaBzf",
    "abgakhaliaakaklagpadraasaBkaabdacBawkavFiaatfaagaFtaajfaDbaahdahfataabgabfaahaadaDhaabdalfab",
    "hajfahgakhaajabkabgaphaaiajjackadjajkaalaskaalaakadlaxkaapadaaaladaablaBbaaalaBiaaalaaaaalad",
    "aaclaaaaakagaablagaanfaBeaaclaxaaalanaaalaghadiaamaajaamablaBbfadjapfaJvdaTrfangafhagiaejadi",
    "aBojacpaejaekazpcBfpbawaBhpactalpaauahpaasaytadqaotaauaBuhaaxaBuhaaxamiacjaakacjadiafjabkaEc",
    "hagkabmfBshbamfamcCbhabmhahaaloalawhjghbghbghbghbghbghbghbghbBfjaxhadjabhasjaakajmagpabraesa",
    "etaauacwakxBizdbDkdmIfdBaldadzaCdaacdacfaadaaabDfaabfcfaabfaDpaaaffBnaaajaasaatbDpabpaaxdacl",
    "aewaphatjabBajazapfaBcaabgbBjaalkaagaofaBbaabgaahaBxaaofalaadgaBuaaavaEoaadgaDuaabgaBeaaagaJ",
    "TddajwaClgaBEXxaavhahjahkaamaiqausaetamwacxaBSuddrdabfapdaafaldaafacdaafaadjBvkaLnjuBfjablar",
    "jahmaBbjafpaaqaamaDjkiwhadiaejabiaEcjablaaqablabmalpajlaamacpaaraatabpafqabtafuabxaeuadwacBa",
    "cbxbaxbexacBavcxabwaapabmaalaejaBrhaawdjkgCdiiCqjaariljgBbkabqabtaDfjlajaBckdCzkbkkebkaBepbC",
    "cjjnjcjjcdjaBbkadpaCokyekawmkflcflcfljglbglbBvpadqabpabuadweDbqaBtkcjkgQNrbmwkeBwkDAyJXtaabm",
    "aCgfackcEbhBmgameafadayabeabaabbabbabEdaaplaaxqOaaapxaClacCbahaxaBfealaaafaagabxapfajhgdaacj",
    "agpabqauaabfabgajabsabdaecaaafaaabFeacaabDpaabfaDpadfacfacfaccadgabgakcdaacacaalgbzgbsgbbgbo",
    "gcngBiEsgfcgeBsgdigaCwhabpabrbljaawdapBvBtjFaBcjdBwjpBbpeBeeaapadejcsaBaefBqpfBdgbagaBjhenhB",
    "qBleabgaBleaDbgcjggBjreBjreBnpiBzplapakxboxbgxbbxbkxboxbgxbbxdBzBamLypjvpkhpyfxbBpxbixCrfgca",
    "gbBrgbbgdagcagavkbikaCkpiipBwsqbbqfeqaziabkdaiazjfajCmCdmebqabmapqcBtqadhbbhfhhbchbBahabtcch",
    "eihaathihhBfkaBfpBgBmpelpjCbkdBckcBakfhkarphdpmgpDcCukCdByqnByqhfqaBntijtgBlBadBcBaibBaIaBek",
    "bBpwbcwcbwqcBaCdaBaacyaBntiBptwzxBmBbwuwujCzleBdlafxjapaCnkaaxkatcymhjmgCambnmactaawiBmpjCum",
    "adqaapabwajmaapaeqbtplrpbBqpaaracyCkgqbaqbdqboqbkqgCgpfjpgaqacpbhpcbpcvpbgpbbpbepbataipcbpcc",
    "pcaqgapfgpcgpdepljBabaBacaBabBlBabjBabaBacaBabdBabjBabbBaibBaBdDlraawaarbaraataauabwBeCtpijp",
    "GkCbpcrpatqBiCqpljpgmrtCdmaauaaxgjmgtBaBczqaatcoqepqagxHdChtDwDepmapagwcawchwbbwbBdwbbwclwjj",
    "wCshucBtuckuBbCtsiBzsabuawsaataesnpxaCephjyHaBhBaojBagirbBsrbnrkBcrdBfrcvrbnrCvgsbbsbBrsdasb",
    "bsbisijsgftbbtbBktbbtbfthjtLyythqybBoydBbyaaBaDhawpBxunauaBHuiaBppaaqDyDuialpbdiaaplHnqDXkDu",
    "xnBPekaayaiuaBcykFXqBafWkqKDdCfBaCOsVwlhBepbjpebpaDaxbjxgBdpcfpkCrpkjpbgpbupfspQqCfBaHqDmtDx",
    "CqmafueauaBumaiuhqmCmaraasabuaawlbwoJBoraetafuiBDaraSowBpaBaaiwNFrdxbgxbbxbblaKysadxpayBdcuc",
    "ayoduiPfsDKuEcpfmpdiphjpchpFVgJpBagQtBaCyBtxcwxjElxCiJlekBmecajaGxeakqabxvCrhEstymttmDigjria",
    "gtFfDgebCsebbecaecbecdeblebaebdeaagabebCmebdechebgebBbebdebeebaedgebMzeabhcLdeabicBxeaZbqpeq",
    "boqBQmBexgfyIfgrbqrcgrbbrberfCjyBhayEiBsudnucjuebuMiBexrCfufauRwBpyIgBqBaeaBaSmgxbdxbbxboxbH",
    "opcppBpCwraauejrebrBEfCptCyCiuHmdmbBambbmbamcambjmbdmbambamgameambambambcmbbmbamcambambambam",
    "bambbmbamcdmbgmbdmbdmbambjmbqmfcmbembqmCabmKkBrjeDvjmolcnlaapbolbolavpkkkabpacwaBekaataalaak",
    "aklaakaalaakablaakaclaakaclaekahlaakaglaakajlabmaauacwailaakaalabkablaakajladkablaakajlarraa",
    "wCezlaakablnBhkailaareikhblofsFyBglalpacqaflaapaCrlaapabqatlalpaBklaapaeladpaeqalpaqlagpahqa",
    "CklaapaalaapaGzlaapadlabpaaqaCjlabpadmagpaeqaxlarpaaraBopaaraDhpaelaamaplaamaclaamaalaamaala",
    "amaalaamaclaamaflabmadlaamaalabmadlaamallabpabqaklaBvpaCrlajpaaqabrabsaauabweayacxampddpacra",
    "bsaataauabwdEllacyeeyaDgpadtaayglueaxplpeCdpijpgBnpiBdpcbwajBaebBaCklsaawacuaiqafraasahrahsa",
    "arabsalraaualraasactaoramsaetaauaawadtabwaaxaataauadtaeqamrafsaktabwafuacwabuajtafuaaqabtahu",
    "aawaaxacuawsaytaDfumntcduaawacyacuabxdcuadwabyaaBafaBaafuaswadxacyagwadxacyaaBaaayacwacxaaBa",
    "hbyagwacxabyaaBacaBaahxaayaaBaggxabyhFqwbCcwaBkBaajwBNobbaCLEseagwabxBgGDokadxaaygInlcINpqoL",
    "BkspXxzDQwUveCFwbbaHHywfGFfyDFLebbDSYobbDSYobbDSYobbDSYobbDSYobbDSYobbDSYobbDSYobbDSYobbDSYo",
    "bbbaeBeDreEyJfgDSFmHLXhb"]

/-- The partition of the assigned code points by age, the oldest version first. -/
def partition : Partition :=
  ⟨Packed.words (String.join [
      "1.1 2.0 2.1 3.0 3.1 3.2 4.0 4.1 5.0 5.1 5.2 6.0 6.1 6.2 6.3 7.0 8.0 9.0 10.0 11.0 12.0 ",
      "12.1 13.0 14.0 15.0 15.1 16.0"]), Packed.runs packed⟩

/-- The version that a name in normal form means: `3.0` or `v30`. -/
def named (name : String) : Option String :=
  partition.names.find? fun version =>
    name == version || name == "v" ++ String.join (version.splitOn ".")

/-- The code points assigned in a version or before it. -/
def upTo (version : String) : CodeSet :=
  let older := (partition.names.takeWhile (· != version)) ++ [version]
  CodeSet.unions (older.map partition.members)

end Age
end Unicode
end StreamEditor
