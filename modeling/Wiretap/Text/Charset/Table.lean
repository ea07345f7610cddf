/-!
# Tables of single-byte character sets

For each set the code points of the bytes from 128 on, four hexadecimal digits
each, and the labels by which sets are named.
-/

namespace Wiretap
namespace Charset

/-- The labels of each set. -/
def labels : List (String × String) := [
  ("utf-8",
    "unicode-1-1-utf-8 unicode11utf8 unicode20utf8 utf-8 utf8 x-unicode20utf8"),
  ("ibm866",
    "866 cp866 csibm866 ibm866"),
  ("iso-8859-2",
    "csisolatin2 iso-8859-2 iso-ir-101 iso8859-2 iso88592 iso_8859-2 iso_8859-2:1987 " ++
    "l2 latin2"),
  ("iso-8859-3",
    "csisolatin3 iso-8859-3 iso-ir-109 iso8859-3 iso88593 iso_8859-3 iso_8859-3:1988 " ++
    "l3 latin3"),
  ("iso-8859-4",
    "csisolatin4 iso-8859-4 iso-ir-110 iso8859-4 iso88594 iso_8859-4 iso_8859-4:1988 " ++
    "l4 latin4"),
  ("iso-8859-5",
    "csisolatincyrillic cyrillic iso-8859-5 iso-ir-144 iso8859-5 iso88595 iso_8859-5 " ++
    "iso_8859-5:1988"),
  ("iso-8859-6",
    "arabic asmo-708 csiso88596e csiso88596i csisolatinarabic ecma-114 iso-8859-6 " ++
    "iso-8859-6-e iso-8859-6-i iso-ir-127 iso8859-6 iso88596 iso_8859-6 " ++
    "iso_8859-6:1987"),
  ("iso-8859-7",
    "csisolatingreek ecma-118 elot_928 greek greek8 iso-8859-7 iso-ir-126 iso8859-7 " ++
    "iso88597 iso_8859-7 iso_8859-7:1987 sun_eu_greek"),
  ("iso-8859-8",
    "csiso88598e csisolatinhebrew hebrew iso-8859-8 iso-8859-8-e iso-ir-138 iso8859-8 " ++
    "iso88598 iso_8859-8 iso_8859-8:1988 visual csiso88598i iso-8859-8-i logical"),
  ("iso-8859-10",
    "csisolatin6 iso-8859-10 iso-ir-157 iso8859-10 iso885910 l6 latin6"),
  ("iso-8859-13",
    "iso-8859-13 iso8859-13 iso885913"),
  ("iso-8859-14",
    "iso-8859-14 iso8859-14 iso885914"),
  ("iso-8859-15",
    "csisolatin9 iso-8859-15 iso8859-15 iso885915 iso_8859-15 l9"),
  ("iso-8859-16",
    "iso-8859-16"),
  ("koi8-r",
    "cskoi8r koi koi8 koi8-r koi8_r"),
  ("koi8-u",
    "koi8-ru koi8-u"),
  ("macintosh",
    "csmacintosh mac macintosh x-mac-roman"),
  ("windows-874",
    "dos-874 iso-8859-11 iso8859-11 iso885911 tis-620 windows-874"),
  ("windows-1250",
    "cp1250 windows-1250 x-cp1250"),
  ("windows-1251",
    "cp1251 windows-1251 x-cp1251"),
  ("windows-1252",
    "ansi_x3.4-1968 ascii cp1252 cp819 csisolatin1 ibm819 iso-8859-1 iso-ir-100 " ++
    "iso8859-1 iso88591 iso_8859-1 iso_8859-1:1987 l1 latin1 us-ascii windows-1252 " ++
    "x-cp1252"),
  ("windows-1253",
    "cp1253 windows-1253 x-cp1253"),
  ("windows-1254",
    "cp1254 csisolatin5 iso-8859-9 iso-ir-148 iso8859-9 iso88599 iso_8859-9 " ++
    "iso_8859-9:1989 l5 latin5 windows-1254 x-cp1254"),
  ("windows-1255",
    "cp1255 windows-1255 x-cp1255"),
  ("windows-1256",
    "cp1256 windows-1256 x-cp1256"),
  ("windows-1257",
    "cp1257 windows-1257 x-cp1257"),
  ("windows-1258",
    "cp1258 windows-1258 x-cp1258"),
  ("x-mac-cyrillic",
    "x-mac-cyrillic x-mac-ukrainian"),
  ("utf-16be",
    "unicodefffe utf-16be"),
  ("utf-16le",
    "csunicode iso-10646-ucs-2 ucs-2 unicode unicodefeff utf-16 utf-16le"),
  ("gbk",
    "chinese csgb2312 csiso58gb231280 gb2312 gb_2312 gb_2312-80 gbk iso-ir-58 x-gbk"),
  ("gb18030",
    "gb18030"),
  ("big5",
    "big5 big5-hkscs cn-big5 csbig5 x-x-big5"),
  ("euc-jp",
    "cseucpkdfmtjapanese euc-jp x-euc-jp"),
  ("iso-2022-jp",
    "csiso2022jp iso-2022-jp"),
  ("shift_jis",
    "csshiftjis ms932 ms_kanji shift-jis shift_jis sjis windows-31j x-sjis"),
  ("euc-kr",
    "cseuckr csksc56011987 euc-kr iso-ir-149 korean ks_c_5601-1987 ks_c_5601-1989 " ++
    "ksc5601 ksc_5601 windows-949"),
  ("replacement",
    "csiso2022kr hz-gb-2312 iso-2022-cn iso-2022-cn-ext iso-2022-kr replacement"),
  ("x-user-defined",
    "x-user-defined")]

/-- The code points of each set, for the bytes from 128 on. -/
def upperHalves : List (String × String) := [
  ("ibm866",
    "0410041104120413041404150416041704180419041A041B041C041D041E041F0420042104220423" ++
    "042404250426042704280429042A042B042C042D042E042F04300431043204330434043504360437" ++
    "04380439043A043B043C043D043E043F259125922593250225242561256225562555256325512557" ++
    "255D255C255B251025142534252C251C2500253C255E255F255A25542569256625602550256C2567" ++
    "2568256425652559255825522553256B256A2518250C25882584258C259025800440044104420443" ++
    "044404450446044704480449044A044B044C044D044E044F040104510404045404070457040E045E" ++
    "00B0221900B7221A211600A425A000A0"),
  ("iso-8859-2",
    "0080008100820083008400850086008700880089008A008B008C008D008E008F0090009100920093" ++
    "009400950096009700980099009A009B009C009D009E009F00A0010402D8014100A4013D015A00A7" ++
    "00A80160015E0164017900AD017D017B00B0010502DB014200B4013E015B02C700B80161015F0165" ++
    "017A02DD017E017C015400C100C2010200C40139010600C7010C00C9011800CB011A00CD00CE010E" ++
    "01100143014700D300D4015000D600D70158016E00DA017000DC00DD016200DF015500E100E20103" ++
    "00E4013A010700E7010D00E9011900EB011B00ED00EE010F01110144014800F300F4015100F600F7" ++
    "0159016F00FA017100FC00FD016302D9"),
  ("iso-8859-3",
    "0080008100820083008400850086008700880089008A008B008C008D008E008F0090009100920093" ++
    "009400950096009700980099009A009B009C009D009E009F00A0012602D800A300A4FFFD012400A7" ++
    "00A80130015E011E013400ADFFFD017B00B0012700B200B300B400B5012500B700B80131015F011F" ++
    "013500BDFFFD017C00C000C100C2FFFD00C4010A010800C700C800C900CA00CB00CC00CD00CE00CF" ++
    "FFFD00D100D200D300D4012000D600D7011C00D900DA00DB00DC016C015C00DF00E000E100E2FFFD" ++
    "00E4010B010900E700E800E900EA00EB00EC00ED00EE00EFFFFD00F100F200F300F4012100F600F7" ++
    "011D00F900FA00FB00FC016D015D02D9"),
  ("iso-8859-4",
    "0080008100820083008400850086008700880089008A008B008C008D008E008F0090009100920093" ++
    "009400950096009700980099009A009B009C009D009E009F00A001040138015600A40128013B00A7" ++
    "00A8016001120122016600AD017D00AF00B0010502DB015700B40129013C02C700B8016101130123" ++
    "0167014A017E014B010000C100C200C300C400C500C6012E010C00C9011800CB011600CD00CE012A" ++
    "01100145014C013600D400D500D600D700D8017200DA00DB00DC0168016A00DF010100E100E200E3" ++
    "00E400E500E6012F010D00E9011900EB011700ED00EE012B01110146014D013700F400F500F600F7" ++
    "00F8017300FA00FB00FC0169016B02D9"),
  ("iso-8859-5",
    "0080008100820083008400850086008700880089008A008B008C008D008E008F0090009100920093" ++
    "009400950096009700980099009A009B009C009D009E009F00A00401040204030404040504060407" ++
    "04080409040A040B040C00AD040E040F0410041104120413041404150416041704180419041A041B" ++
    "041C041D041E041F0420042104220423042404250426042704280429042A042B042C042D042E042F" ++
    "0430043104320433043404350436043704380439043A043B043C043D043E043F0440044104420443" ++
    "044404450446044704480449044A044B044C044D044E044F21160451045204530454045504560457" ++
    "04580459045A045B045C00A7045E045F"),
  ("iso-8859-6",
    "0080008100820083008400850086008700880089008A008B008C008D008E008F0090009100920093" ++
    "009400950096009700980099009A009B009C009D009E009F00A0FFFDFFFDFFFD00A4FFFDFFFDFFFD" ++
    "FFFDFFFDFFFDFFFD060C00ADFFFDFFFDFFFDFFFDFFFDFFFDFFFDFFFDFFFDFFFDFFFDFFFDFFFD061B" ++
    "FFFDFFFDFFFD061FFFFD062106220623062406250626062706280629062A062B062C062D062E062F" ++
    "0630063106320633063406350636063706380639063AFFFDFFFDFFFDFFFDFFFD0640064106420643" ++
    "064406450646064706480649064A064B064C064D064E064F065006510652FFFDFFFDFFFDFFFDFFFD" ++
    "FFFDFFFDFFFDFFFDFFFDFFFDFFFDFFFD"),
  ("iso-8859-7",
    "0080008100820083008400850086008700880089008A008B008C008D008E008F0090009100920093" ++
    "009400950096009700980099009A009B009C009D009E009F00A02018201900A320AC20AF00A600A7" ++
    "00A800A9037A00AB00AC00ADFFFD201500B000B100B200B303840385038600B703880389038A00BB" ++
    "038C00BD038E038F0390039103920393039403950396039703980399039A039B039C039D039E039F" ++
    "03A003A1FFFD03A303A403A503A603A703A803A903AA03AB03AC03AD03AE03AF03B003B103B203B3" ++
    "03B403B503B603B703B803B903BA03BB03BC03BD03BE03BF03C003C103C203C303C403C503C603C7" ++
    "03C803C903CA03CB03CC03CD03CEFFFD"),
  ("iso-8859-8",
    "0080008100820083008400850086008700880089008A008B008C008D008E008F0090009100920093" ++
    "009400950096009700980099009A009B009C009D009E009F00A0FFFD00A200A300A400A500A600A7" ++
    "00A800A900D700AB00AC00AD00AE00AF00B000B100B200B300B400B500B600B700B800B900F700BB" ++
    "00BC00BD00BEFFFDFFFDFFFDFFFDFFFDFFFDFFFDFFFDFFFDFFFDFFFDFFFDFFFDFFFDFFFDFFFDFFFD" ++
    "FFFDFFFDFFFDFFFDFFFDFFFDFFFDFFFDFFFDFFFDFFFDFFFDFFFDFFFDFFFD201705D005D105D205D3" ++
    "05D405D505D605D705D805D905DA05DB05DC05DD05DE05DF05E005E105E205E305E405E505E605E7" ++
    "05E805E905EAFFFDFFFD200E200FFFFD"),
  ("iso-8859-10",
    "0080008100820083008400850086008700880089008A008B008C008D008E008F0090009100920093" ++
    "009400950096009700980099009A009B009C009D009E009F00A0010401120122012A0128013600A7" ++
    "013B011001600166017D00AD016A014A00B0010501130123012B0129013700B7013C011101610167" ++
    "017E2015016B014B010000C100C200C300C400C500C6012E010C00C9011800CB011600CD00CE00CF" ++
    "00D00145014C00D300D400D500D6016800D8017200DA00DB00DC00DD00DE00DF010100E100E200E3" ++
    "00E400E500E6012F010D00E9011900EB011700ED00EE00EF00F00146014D00F300F400F500F60169" ++
    "00F8017300FA00FB00FC00FD00FE0138"),
  ("iso-8859-13",
    "0080008100820083008400850086008700880089008A008B008C008D008E008F0090009100920093" ++
    "009400950096009700980099009A009B009C009D009E009F00A0201D00A200A300A4201E00A600A7" ++
    "00D800A9015600AB00AC00AD00AE00C600B000B100B200B3201C00B500B600B700F800B9015700BB" ++
    "00BC00BD00BE00E60104012E0100010600C400C501180112010C00C90179011601220136012A013B" ++
    "01600143014500D3014C00D500D600D701720141015A016A00DC017B017D00DF0105012F01010107" ++
    "00E400E501190113010D00E9017A011701230137012B013C01610144014600F3014D00F500F600F7" ++
    "01730142015B016B00FC017C017E2019"),
  ("iso-8859-14",
    "0080008100820083008400850086008700880089008A008B008C008D008E008F0090009100920093" ++
    "009400950096009700980099009A009B009C009D009E009F00A01E021E0300A3010A010B1E0A00A7" ++
    "1E8000A91E821E0B1EF200AD00AE01781E1E1E1F012001211E401E4100B61E561E811E571E831E60" ++
    "1EF31E841E851E6100C000C100C200C300C400C500C600C700C800C900CA00CB00CC00CD00CE00CF" ++
    "017400D100D200D300D400D500D61E6A00D800D900DA00DB00DC00DD017600DF00E000E100E200E3" ++
    "00E400E500E600E700E800E900EA00EB00EC00ED00EE00EF017500F100F200F300F400F500F61E6B" ++
    "00F800F900FA00FB00FC00FD017700FF"),
  ("iso-8859-15",
    "0080008100820083008400850086008700880089008A008B008C008D008E008F0090009100920093" ++
    "009400950096009700980099009A009B009C009D009E009F00A000A100A200A320AC00A5016000A7" ++
    "016100A900AA00AB00AC00AD00AE00AF00B000B100B200B3017D00B500B600B7017E00B900BA00BB" ++
    "01520153017800BF00C000C100C200C300C400C500C600C700C800C900CA00CB00CC00CD00CE00CF" ++
    "00D000D100D200D300D400D500D600D700D800D900DA00DB00DC00DD00DE00DF00E000E100E200E3" ++
    "00E400E500E600E700E800E900EA00EB00EC00ED00EE00EF00F000F100F200F300F400F500F600F7" ++
    "00F800F900FA00FB00FC00FD00FE00FF"),
  ("iso-8859-16",
    "0080008100820083008400850086008700880089008A008B008C008D008E008F0090009100920093" ++
    "009400950096009700980099009A009B009C009D009E009F00A001040105014120AC201E016000A7" ++
    "016100A9021800AB017900AD017A017B00B000B1010C0142017D201D00B600B7017E010D021900BB" ++
    "015201530178017C00C000C100C2010200C4010600C600C700C800C900CA00CB00CC00CD00CE00CF" ++
    "0110014300D200D300D4015000D6015A017000D900DA00DB00DC0118021A00DF00E000E100E20103" ++
    "00E4010700E600E700E800E900EA00EB00EC00ED00EE00EF0111014400F200F300F4015100F6015B" ++
    "017100F900FA00FB00FC0119021B00FF"),
  ("koi8-r",
    "25002502250C251025142518251C2524252C2534253C258025842588258C25902591259225932320" ++
    "25A02219221A22482264226500A0232100B000B200B700F725502551255204512553255425552556" ++
    "255725582559255A255B255C255D255E255F25602561040125622563256425652566256725682569" ++
    "256A256B256C00A9044E0430043104460434043504440433044504380439043A043B043C043D043E" ++
    "043F044F044004410442044304360432044C044B04370448044D04490447044A042E041004110426" ++
    "0414041504240413042504180419041A041B041C041D041E041F042F042004210422042304160412" ++
    "042C042B04170428042D04290427042A"),
  ("koi8-u",
    "25002502250C251025142518251C2524252C2534253C258025842588258C25902591259225932320" ++
    "25A02219221A22482264226500A0232100B000B200B700F725502551255204510454255404560457" ++
    "255725582559255A255B0491045E255E255F25602561040104042563040604072566256725682569" ++
    "256A0490040E00A9044E0430043104460434043504440433044504380439043A043B043C043D043E" ++
    "043F044F044004410442044304360432044C044B04370448044D04490447044A042E041004110426" ++
    "0414041504240413042504180419041A041B041C041D041E041F042F042004210422042304160412" ++
    "042C042B04170428042D04290427042A"),
  ("macintosh",
    "00C400C500C700C900D100D600DC00E100E000E200E400E300E500E700E900E800EA00EB00ED00EC" ++
    "00EE00EF00F100F300F200F400F600F500FA00F900FB00FC202000B000A200A300A7202200B600DF" ++
    "00AE00A9212200B400A8226000C600D8221E00B12264226500A500B522022211220F03C0222B00AA" ++
    "00BA03A900E600F800BF00A100AC221A01922248220600AB00BB202600A000C000C300D501520153" ++
    "20132014201C201D2018201900F725CA00FF0178204420AC2039203AFB01FB02202100B7201A201E" ++
    "203000C200CA00C100CB00C800CD00CE00CF00CC00D300D4F8FF00D200DA00DB00D9013102C602DC" ++
    "00AF02D802D902DA00B802DD02DB02C7"),
  ("windows-874",
    "20AC008100820083008420260086008700880089008A008B008C008D008E008F009020182019201C" ++
    "201D20222013201400980099009A009B009C009D009E009F00A00E010E020E030E040E050E060E07" ++
    "0E080E090E0A0E0B0E0C0E0D0E0E0E0F0E100E110E120E130E140E150E160E170E180E190E1A0E1B" ++
    "0E1C0E1D0E1E0E1F0E200E210E220E230E240E250E260E270E280E290E2A0E2B0E2C0E2D0E2E0E2F" ++
    "0E300E310E320E330E340E350E360E370E380E390E3AFFFDFFFDFFFDFFFD0E3F0E400E410E420E43" ++
    "0E440E450E460E470E480E490E4A0E4B0E4C0E4D0E4E0E4F0E500E510E520E530E540E550E560E57" ++
    "0E580E590E5A0E5BFFFDFFFDFFFDFFFD"),
  ("windows-1250",
    "20AC0081201A0083201E2026202020210088203001602039015A0164017D0179009020182019201C" ++
    "201D202220132014009821220161203A015B0165017E017A00A002C702D8014100A4010400A600A7" ++
    "00A800A9015E00AB00AC00AD00AE017B00B000B102DB014200B400B500B600B700B80105015F00BB" ++
    "013D02DD013E017C015400C100C2010200C40139010600C7010C00C9011800CB011A00CD00CE010E" ++
    "01100143014700D300D4015000D600D70158016E00DA017000DC00DD016200DF015500E100E20103" ++
    "00E4013A010700E7010D00E9011900EB011B00ED00EE010F01110144014800F300F4015100F600F7" ++
    "0159016F00FA017100FC00FD016302D9"),
  ("windows-1251",
    "04020403201A0453201E20262020202120AC203004092039040A040C040B040F045220182019201C" ++
    "201D202220132014009821220459203A045A045C045B045F00A0040E045E040800A4049000A600A7" ++
    "040100A9040400AB00AC00AD00AE040700B000B104060456049100B500B600B704512116045400BB" ++
    "04580405045504570410041104120413041404150416041704180419041A041B041C041D041E041F" ++
    "0420042104220423042404250426042704280429042A042B042C042D042E042F0430043104320433" ++
    "043404350436043704380439043A043B043C043D043E043F04400441044204430444044504460447" ++
    "04480449044A044B044C044D044E044F"),
  ("windows-1252",
    "20AC0081201A0192201E20262020202102C62030016020390152008D017D008F009020182019201C" ++
    "201D20222013201402DC21220161203A0153009D017E017800A000A100A200A300A400A500A600A7" ++
    "00A800A900AA00AB00AC00AD00AE00AF00B000B100B200B300B400B500B600B700B800B900BA00BB" ++
    "00BC00BD00BE00BF00C000C100C200C300C400C500C600C700C800C900CA00CB00CC00CD00CE00CF" ++
    "00D000D100D200D300D400D500D600D700D800D900DA00DB00DC00DD00DE00DF00E000E100E200E3" ++
    "00E400E500E600E700E800E900EA00EB00EC00ED00EE00EF00F000F100F200F300F400F500F600F7" ++
    "00F800F900FA00FB00FC00FD00FE00FF"),
  ("windows-1253",
    "20AC0081201A0192201E20262020202100882030008A2039008C008D008E008F009020182019201C" ++
    "201D20222013201400982122009A203A009C009D009E009F00A00385038600A300A400A500A600A7" ++
    "00A800A9FFFD00AB00AC00AD00AE201500B000B100B200B3038400B500B600B703880389038A00BB" ++
    "038C00BD038E038F0390039103920393039403950396039703980399039A039B039C039D039E039F" ++
    "03A003A1FFFD03A303A403A503A603A703A803A903AA03AB03AC03AD03AE03AF03B003B103B203B3" ++
    "03B403B503B603B703B803B903BA03BB03BC03BD03BE03BF03C003C103C203C303C403C503C603C7" ++
    "03C803C903CA03CB03CC03CD03CEFFFD"),
  ("windows-1254",
    "20AC0081201A0192201E20262020202102C62030016020390152008D008E008F009020182019201C" ++
    "201D20222013201402DC21220161203A0153009D009E017800A000A100A200A300A400A500A600A7" ++
    "00A800A900AA00AB00AC00AD00AE00AF00B000B100B200B300B400B500B600B700B800B900BA00BB" ++
    "00BC00BD00BE00BF00C000C100C200C300C400C500C600C700C800C900CA00CB00CC00CD00CE00CF" ++
    "011E00D100D200D300D400D500D600D700D800D900DA00DB00DC0130015E00DF00E000E100E200E3" ++
    "00E400E500E600E700E800E900EA00EB00EC00ED00EE00EF011F00F100F200F300F400F500F600F7" ++
    "00F800F900FA00FB00FC0131015F00FF"),
  ("windows-1255",
    "20AC0081201A0192201E20262020202102C62030008A2039008C008D008E008F009020182019201C" ++
    "201D20222013201402DC2122009A203A009C009D009E009F00A000A100A200A320AA00A500A600A7" ++
    "00A800A900D700AB00AC00AD00AE00AF00B000B100B200B300B400B500B600B700B800B900F700BB" ++
    "00BC00BD00BE00BF05B005B105B205B305B405B505B605B705B805B905BA05BB05BC05BD05BE05BF" ++
    "05C005C105C205C305F005F105F205F305F4FFFDFFFDFFFDFFFDFFFDFFFDFFFD05D005D105D205D3" ++
    "05D405D505D605D705D805D905DA05DB05DC05DD05DE05DF05E005E105E205E305E405E505E605E7" ++
    "05E805E905EAFFFDFFFD200E200FFFFD"),
  ("windows-1256",
    "20AC067E201A0192201E20262020202102C6203006792039015206860698068806AF20182019201C" ++
    "201D20222013201406A921220691203A0153200C200D06BA00A0060C00A200A300A400A500A600A7" ++
    "00A800A906BE00AB00AC00AD00AE00AF00B000B100B200B300B400B500B600B700B800B9061B00BB" ++
    "00BC00BD00BE061F06C1062106220623062406250626062706280629062A062B062C062D062E062F" ++
    "063006310632063306340635063600D7063706380639063A064006410642064300E0064400E20645" ++
    "06460647064800E700E800E900EA00EB0649064A00EE00EF064B064C064D064E00F4064F065000F7" ++
    "065100F9065200FB00FC200E200F06D2"),
  ("windows-1257",
    "20AC0081201A0083201E20262020202100882030008A2039008C00A802C700B8009020182019201C" ++
    "201D20222013201400982122009A203A009C00AF02DB009F00A0FFFD00A200A300A4FFFD00A600A7" ++
    "00D800A9015600AB00AC00AD00AE00C600B000B100B200B300B400B500B600B700F800B9015700BB" ++
    "00BC00BD00BE00E60104012E0100010600C400C501180112010C00C90179011601220136012A013B" ++
    "01600143014500D3014C00D500D600D701720141015A016A00DC017B017D00DF0105012F01010107" ++
    "00E400E501190113010D00E9017A011701230137012B013C01610144014600F3014D00F500F600F7" ++
    "01730142015B016B00FC017C017E02D9"),
  ("windows-1258",
    "20AC0081201A0192201E20262020202102C62030008A20390152008D008E008F009020182019201C" ++
    "201D20222013201402DC2122009A203A0153009D009E017800A000A100A200A300A400A500A600A7" ++
    "00A800A900AA00AB00AC00AD00AE00AF00B000B100B200B300B400B500B600B700B800B900BA00BB" ++
    "00BC00BD00BE00BF00C000C100C2010200C400C500C600C700C800C900CA00CB030000CD00CE00CF" ++
    "011000D1030900D300D401A000D600D700D800D900DA00DB00DC01AF030300DF00E000E100E20103" ++
    "00E400E500E600E700E800E900EA00EB030100ED00EE00EF011100F1032300F300F401A100F600F7" ++
    "00F800F900FA00FB00FC01B020AB00FF"),
  ("x-mac-cyrillic",
    "0410041104120413041404150416041704180419041A041B041C041D041E041F0420042104220423" ++
    "042404250426042704280429042A042B042C042D042E042F202000B0049000A300A7202200B60406" ++
    "00AE00A9212204020452226004030453221E00B122642265045600B5049104080404045404070457" ++
    "04090459040A045A0458040500AC221A01922248220600AB00BB202600A0040B045B040C045C0455" ++
    "20132014201C201D2018201900F7201E040E045E040F045F211604010451044F0430043104320433" ++
    "043404350436043704380439043A043B043C043D043E043F04400441044204430444044504460447" ++
    "04480449044A044B044C044D044E20AC")]

end Charset
end Wiretap
