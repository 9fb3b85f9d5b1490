/-!
# Character names, U+3000 to U+FFFF

Each line names consecutive code points: the first of them, what their names begin with, and how each
name goes on.
-/

namespace GraphGateway.Text.CharacterName

/-- The names of the characters from U+3000 to U+FFFF. -/
def eastAsia : String :=
"3000|IDEOGRAPHIC |SPACE|COMMA|FULL STOP
3003||DITTO MARK|JAPANESE INDUSTRIAL STANDARD SYMBOL
3005|IDEOGRAPHIC |ITERATION MARK|CLOSING MARK|NUMBER ZERO
3008||LEFT ANGLE BRACKET|RIGHT ANGLE BRACKET|LEFT DOUBLE ANGLE BRACKET
300B||RIGHT DOUBLE ANGLE BRACKET|LEFT CORNER BRACKET|RIGHT CORNER BRACKET|LEFT WHITE CORNER BRACKET
300F||RIGHT WHITE CORNER BRACKET|LEFT BLACK LENTICULAR BRACKET|RIGHT BLACK LENTICULAR BRACKET|POSTAL MARK
3013||GETA MARK|LEFT TORTOISE SHELL BRACKET|RIGHT TORTOISE SHELL BRACKET|LEFT WHITE LENTICULAR BRACKET
3017||RIGHT WHITE LENTICULAR BRACKET|LEFT WHITE TORTOISE SHELL BRACKET|RIGHT WHITE TORTOISE SHELL BRACKET
301A||LEFT WHITE SQUARE BRACKET|RIGHT WHITE SQUARE BRACKET|WAVE DASH|REVERSED DOUBLE PRIME QUOTATION MARK
301E||DOUBLE PRIME QUOTATION MARK|LOW DOUBLE PRIME QUOTATION MARK|POSTAL MARK FACE
3021|HANGZHOU NUMERAL |ONE|TWO|THREE|FOUR|FIVE|SIX|SEVEN|EIGHT|NINE
302A|IDEOGRAPHIC |LEVEL TONE MARK|RISING TONE MARK|DEPARTING TONE MARK|ENTERING TONE MARK
302E||HANGUL SINGLE DOT TONE MARK|HANGUL DOUBLE DOT TONE MARK|WAVY DASH
3031|VERTICAL KANA REPEAT |MARK|WITH VOICED SOUND MARK
3033|VERTICAL KANA REPEAT |MARK UPPER HALF|WITH VOICED SOUND MARK UPPER HALF|MARK LOWER HALF
3036||CIRCLED POSTAL MARK|IDEOGRAPHIC TELEGRAPH LINE FEED SEPARATOR SYMBOL
3038|HANGZHOU NUMERAL T|EN|WENTY|HIRTY
303B||VERTICAL IDEOGRAPHIC ITERATION MARK|MASU MARK|PART ALTERNATION MARK
303E|IDEOGRAPHIC |VARIATION INDICATOR|HALF FILL SPACE
3041|HIRAGANA LETTER |SMALL A|A|SMALL I|I|SMALL U|U|SMALL E|E|SMALL O|O|KA|GA|KI
304E|HIRAGANA LETTER |GI|KU|GU|KE|GE|KO|GO|SA|ZA|SI|ZI|SU|ZU|SE|ZE|SO|ZO|TA|DA|TI|DI|SMALL TU|TU|DU|TE|DE|TO
3069|HIRAGANA LETTER |DO|NA|NI|NU|NE|NO|HA|BA|PA|HI|BI|PI|HU|BU|PU|HE|BE|PE|HO|BO|PO|MA|MI|MU|ME|MO|SMALL YA
3084|HIRAGANA LETTER |YA|SMALL YU|YU|SMALL YO|YO|RA|RI|RU|RE|RO|SMALL WA|WA|WI|WE|WO|N|VU|SMALL KA|SMALL KE
3099|COMBINING KATAKANA-HIRAGANA |VOICED SOUND MARK|SEMI-VOICED SOUND MARK
309B|KATAKANA-HIRAGANA |VOICED SOUND MARK|SEMI-VOICED SOUND MARK
309D|HIRAGANA |ITERATION MARK|VOICED ITERATION MARK|DIGRAPH YORI
30A0||KATAKANA-HIRAGANA DOUBLE HYPHEN
30A1|KATAKANA LETTER |SMALL A|A|SMALL I|I|SMALL U|U|SMALL E|E|SMALL O|O|KA|GA|KI|GI|KU|GU|KE
30B2|KATAKANA LETTER |GE|KO|GO|SA|ZA|SI|ZI|SU|ZU|SE|ZE|SO|ZO|TA|DA|TI|DI|SMALL TU|TU|DU|TE|DE|TO|DO|NA|NI|NU
30CD|KATAKANA LETTER |NE|NO|HA|BA|PA|HI|BI|PI|HU|BU|PU|HE|BE|PE|HO|BO|PO|MA|MI|MU|ME|MO|SMALL YA|YA|SMALL YU
30E6|KATAKANA LETTER |YU|SMALL YO|YO|RA|RI|RU|RE|RO|SMALL WA|WA|WI|WE|WO|N|VU|SMALL KA|SMALL KE|VA|VI|VE|VO
30FB|KATAKANA| MIDDLE DOT|-HIRAGANA PROLONGED SOUND MARK
30FD|KATAKANA |ITERATION MARK|VOICED ITERATION MARK|DIGRAPH KOTO
3105|BOPOMOFO LETTER |B|P|M|F|D|T|N|L|G|K|H|J|Q|X|ZH|CH
3115|BOPOMOFO LETTER |SH|R|Z|C|S|A|O|E|EH|AI|EI|AU|OU|AN|EN|ANG|ENG|ER|I|U|IU|V|NG|GN|IH|O WITH DOT ABOVE|NN
3131|HANGUL LETTER |KIYEOK|SSANGKIYEOK|KIYEOK-SIOS|NIEUN|NIEUN-CIEUC|NIEUN-HIEUH|TIKEUT|SSANGTIKEUT|RIEUL
313A|HANGUL LETTER RIEUL-|KIYEOK|MIEUM|PIEUP|SIOS|THIEUTH|PHIEUPH|HIEUH
3141|HANGUL LETTER |MIEUM|PIEUP|SSANGPIEUP|PIEUP-SIOS|SIOS|SSANGSIOS|IEUNG|CIEUC|SSANGCIEUC|CHIEUCH|KHIEUKH
314C|HANGUL LETTER |THIEUTH|PHIEUPH|HIEUH|A|AE|YA|YAE|EO|E|YEO|YE|O|WA|WAE|OE|YO|U|WEO|WE|WI|YU|EU|YI|I
3164|HANGUL |FILLER|LETTER SSANGNIEUN
3166|HANGUL LETTER NIEUN-|TIKEUT|SIOS|PANSIOS
3169|HANGUL LETTER RIEUL-|KIYEOK-SIOS|TIKEUT|PIEUP-SIOS|PANSIOS|YEORINHIEUH
316E|HANGUL LETTER |MIEUM-PIEUP|MIEUM-SIOS|MIEUM-PANSIOS|KAPYEOUNMIEUM
3172|HANGUL LETTER PIEUP-|KIYEOK|TIKEUT|SIOS-KIYEOK|SIOS-TIKEUT|CIEUC|THIEUTH
3178|HANGUL LETTER KAPYEOUN|PIEUP|SSANGPIEUP
317A|HANGUL LETTER SIOS-|KIYEOK|NIEUN|TIKEUT|PIEUP|CIEUC
317F|HANGUL LETTER |PANSIOS|SSANGIEUNG|YESIEUNG|YESIEUNG-SIOS|YESIEUNG-PANSIOS
3184|HANGUL LETTER |KAPYEOUNPHIEUPH|SSANGHIEUH|YEORINHIEUH|YO-YA|YO-YAE|YO-I|YU-YEO|YU-YE|YU-I|ARAEA|ARAEAE
3190|IDEOGRAPHIC ANNOTATION |LINKING MARK|REVERSE MARK
3192|IDEOGRAPHIC ANNOTATION |ONE MARK|TWO MARK|THREE MARK|FOUR MARK|TOP MARK|MIDDLE MARK|BOTTOM MARK
3199|IDEOGRAPHIC ANNOTATION |FIRST MARK|SECOND MARK|THIRD MARK|FOURTH MARK|HEAVEN MARK|EARTH MARK|MAN MARK
31A0|BOPOMOFO LETTER |BU|ZI|JI|GU|EE|ENN|OO|ONN|IR|ANN|INN|UNN|IM|NGG|AINN|AUNN|AM|OM|ONG|INNN
31B4|BOPOMOFO FINAL LETTER |P|T|K|H
31B8|BOPOMOFO |LETTER GH|LETTER LH|LETTER ZY|FINAL LETTER G
31BC|BOPOMOFO LETTER |GW|KW|OE|AH
31C0|CJK STROKE |T|WG|XG|BXG|SW|HZZ|HZG|HP|HZWG|SZWG
31CA|CJK STROKE |HZT|HZZP|HPWG|HZW|HZZZ|N|H|S|P|SP|D|HZ|HG|SZ|SWZ|ST|SG|PD|PZ|TN|SZZ|SWG|HXWG|HZZZG|PG|Q
31F0|KATAKANA LETTER SMALL |KU|SI|SU|TO|NU|HA|HI|HU|HE|HO|MU|RA|RI|RU|RE|RO
3200|PARENTHESIZED HANGUL |KIYEOK|NIEUN|TIKEUT|RIEUL|MIEUM|PIEUP|SIOS|IEUNG|CIEUC|CHIEUCH
320A|PARENTHESIZED HANGUL |KHIEUKH|THIEUTH|PHIEUPH|HIEUH|KIYEOK A|NIEUN A|TIKEUT A|RIEUL A|MIEUM A|PIEUP A
3214|PARENTHESIZED HANGUL |SIOS A|IEUNG A|CIEUC A|CHIEUCH A|KHIEUKH A|THIEUTH A|PHIEUPH A|HIEUH A|CIEUC U
321D|PARENTHESIZED KOREAN CHARACTER O|JEON| HU
3220||PARENTHESIZED IDEOGRAPH ONE
3221|PARENTHESIZED IDEOGRAPH |TWO|THREE|FOUR|FIVE|SIX|SEVEN|EIGHT|NINE|TEN|MOON|FIRE|WATER|WOOD|METAL|EARTH
3230|PARENTHESIZED IDEOGRAPH |SUN|STOCK|HAVE|SOCIETY|NAME|SPECIAL|FINANCIAL|CONGRATULATION|LABOR|REPRESENT
323A|PARENTHESIZED IDEOGRAPH |CALL|STUDY|SUPERVISE|ENTERPRISE|RESOURCE|ALLIANCE|FESTIVAL|REST|SELF|REACH
3244|CIRCLED IDEOGRAPH |QUESTION|KINDERGARTEN|SCHOOL|KOTO
3248|CIRCLED NUMBER |TEN ON BLACK SQUARE|TWENTY ON BLACK SQUARE|THIRTY ON BLACK SQUARE|FORTY ON BLACK SQUARE
324C|CIRCLED NUMBER |FIFTY ON BLACK SQUARE|SIXTY ON BLACK SQUARE|SEVENTY ON BLACK SQUARE
324F||CIRCLED NUMBER EIGHTY ON BLACK SQUARE|PARTNERSHIP SIGN
3251|CIRCLED NUMBER TWENTY |ONE|TWO|THREE|FOUR|FIVE|SIX|SEVEN|EIGHT|NINE
325A|CIRCLED NUMBER THIRTY|| ONE| TWO| THREE| FOUR| FIVE
3260|CIRCLED HANGUL |KIYEOK|NIEUN|TIKEUT|RIEUL|MIEUM|PIEUP|SIOS
3267|CIRCLED HANGUL |IEUNG|CIEUC|CHIEUCH|KHIEUKH|THIEUTH|PHIEUPH|HIEUH|KIYEOK A|NIEUN A|TIKEUT A|RIEUL A
3272|CIRCLED HANGUL |MIEUM A|PIEUP A|SIOS A|IEUNG A|CIEUC A|CHIEUCH A|KHIEUKH A|THIEUTH A|PHIEUPH A|HIEUH A
327C|CIRCLED KOREAN CHARACTER |CHAMKO|JUEUI
327E||CIRCLED HANGUL IEUNG U|KOREAN STANDARD SYMBOL
3280|CIRCLED IDEOGRAPH |ONE|TWO|THREE|FOUR|FIVE|SIX|SEVEN|EIGHT|NINE|TEN|MOON|FIRE|WATER|WOOD|METAL
328F|CIRCLED IDEOGRAPH |EARTH|SUN|STOCK|HAVE|SOCIETY|NAME|SPECIAL|FINANCIAL|CONGRATULATION|LABOR|SECRET
329A|CIRCLED IDEOGRAPH |MALE|FEMALE|SUITABLE|EXCELLENT|PRINT|ATTENTION|ITEM|REST|COPY|CORRECT|HIGH|CENTRE
32A6|CIRCLED IDEOGRAPH |LOW|LEFT|RIGHT|MEDICINE|RELIGION|STUDY|SUPERVISE|ENTERPRISE|RESOURCE|ALLIANCE|NIGHT
32B1|CIRCLED NUMBER THIRTY |SIX|SEVEN|EIGHT|NINE
32B5|CIRCLED NUMBER FORTY|| ONE| TWO| THREE| FOUR| FIVE| SIX| SEVEN| EIGHT| NINE
32BF||CIRCLED NUMBER FIFTY
32C0|IDEOGRAPHIC TELEGRAPH SYMBOL FOR |JANUARY|FEBRUARY
32C2|IDEOGRAPHIC TELEGRAPH SYMBOL FOR |MARCH|APRIL|MAY|JUNE|JULY|AUGUST|SEPTEMBER|OCTOBER|NOVEMBER|DECEMBER
32CC|SQUARE |HG|ERG|EV
32CF||LIMITED LIABILITY SIGN
32D0|CIRCLED KATAKANA |A|I|U|E|O|KA|KI|KU|KE|KO|SA|SI|SU|SE|SO|TA|TI|TU|TE
32E3|CIRCLED KATAKANA |TO|NA|NI|NU|NE|NO|HA|HI|HU|HE|HO|MA|MI|MU|ME|MO|YA|YU|YO|RA|RI|RU|RE|RO|WA|WI|WE|WO
32FF|SQUARE |ERA NAME REIWA|APAATO|ARUHUA|ANPEA|AARU|ININGU|INTI|UON|ESUKUUDO|EEKAA|ONSU|OOMU|KAIRI
330C|SQUARE |KARATTO|KARORII|GARON|GANMA|GIGA|GINII|KYURII|GIRUDAA|KIRO|KIROGURAMU|KIROMEETORU|KIROWATTO
3318|SQUARE GURAMU||TON
331A|SQUARE |KURUZEIRO|KUROONE|KEESU|KORUNA|KOOPO|SAIKURU|SANTIIMU|SIRINGU|SENTI|SENTO|DAASU|DESI|DORU
3327|SQUARE |TON|NANO|NOTTO|HAITU|PAASENTO|PAATU|BAARERU|PIASUTORU|PIKURU|PIKO|BIRU|HUARADDO|HUIITO|BUSSYERU
3335|SQUARE |HURAN|HEKUTAARU|PESO|PENIHI|HERUTU|PENSU|PEEZI|BEETA|POINTO|BORUTO|HON|PONDO|HOORU|HOON
3343|SQUARE M|AIKURO|AIRU|AHHA|ARUKU|ANSYON|IKURON|IRI|IRIBAARU|EGA|EGATON|EETORU
334E|SQUARE |YAADO|YAARU|YUAN|RITTORU|RIRA|RUPII|RUUBURU|REMU|RENTOGEN|WATTO
3358|IDEOGRAPHIC TELEGRAPH SYMBOL FOR HOUR |ZERO|ONE|TWO|THREE|FOUR|FIVE|SIX|SEVEN|EIGHT|NINE|TEN|ELEVEN
3364|IDEOGRAPHIC TELEGRAPH SYMBOL FOR HOUR |TWELVE|THIRTEEN|FOURTEEN|FIFTEEN|SIXTEEN|SEVENTEEN|EIGHTEEN
336B|IDEOGRAPHIC TELEGRAPH SYMBOL FOR HOUR |NINETEEN|TWENTY|TWENTY-ONE|TWENTY-TWO|TWENTY-THREE|TWENTY-FOUR
3371|SQUARE |HPA|DA|AU|BAR|OV|PC|DM|DM SQUARED|DM CUBED|IU
337B|SQUARE ERA NAME |HEISEI|SYOUWA|TAISYOU|MEIZI
337F|SQUARE |CORPORATION|PA AMPS|NA|MU A|MA|KA|KB|MB|GB|CAL|KCAL|PF|NF|MU F|MU G|MG|KG|HZ|KHZ|MHZ|GHZ|THZ
3395|SQUARE M|U L|L
3397|SQUARE |DL|KL|FM|NM|MU M|MM|CM|KM|MM SQUARED|CM SQUARED|M SQUARED|KM SQUARED|MM CUBED|CM CUBED|M CUBED
33A6|SQUARE |KM CUBED|M OVER S|M OVER S SQUARED|PA|KPA|MPA|GPA|RAD|RAD OVER S|RAD OVER S SQUARED|PS|NS|MU S
33B3|SQUARE |MS|PV|NV|MU V|MV|KV|MV MEGA|PW|NW|MU W|MW|KW|MW MEGA|K OHM|M OHM|AM|BQ|CC|CD|C OVER KG|CO|DB|GY
33CA|SQUARE |HA|HP|IN|KK|KM CAPITAL|KT|LM|LN|LOG|LX|MB SMALL|MIL|MOL|PH|PM|PPM|PR|SR|SV|WB|V OVER M|A OVER M
33E0|IDEOGRAPHIC TELEGRAPH SYMBOL FOR DAY |ONE|TWO|THREE|FOUR|FIVE|SIX|SEVEN|EIGHT|NINE|TEN|ELEVEN|TWELVE
33EC|IDEOGRAPHIC TELEGRAPH SYMBOL FOR DAY |THIRTEEN|FOURTEEN|FIFTEEN|SIXTEEN|SEVENTEEN|EIGHTEEN|NINETEEN
33F3|IDEOGRAPHIC TELEGRAPH SYMBOL FOR DAY TWENTY||-ONE|-TWO|-THREE|-FOUR|-FIVE|-SIX|-SEVEN|-EIGHT|-NINE
33FD|IDEOGRAPHIC TELEGRAPH SYMBOL FOR DAY THIRTY||-ONE
33FF||SQUARE GAL
4DC0|HEXAGRAM FOR THE |CREATIVE HEAVEN|RECEPTIVE EARTH
4DC2|HEXAGRAM FOR |DIFFICULTY AT THE BEGINNING|YOUTHFUL FOLLY|WAITING|CONFLICT|THE ARMY|HOLDING TOGETHER
4DC8|HEXAGRAM FOR |SMALL TAMING|TREADING|PEACE|STANDSTILL|FELLOWSHIP|GREAT POSSESSION|MODESTY|ENTHUSIASM
4DD0|HEXAGRAM FOR |FOLLOWING|WORK ON THE DECAYED|APPROACH|CONTEMPLATION|BITING THROUGH|GRACE|SPLITTING APART
4DD7|HEXAGRAM FOR |RETURN|INNOCENCE|GREAT TAMING|MOUTH CORNERS|GREAT PREPONDERANCE|THE ABYSMAL WATER
4DDD|HEXAGRAM FOR |THE CLINGING FIRE|INFLUENCE|DURATION|RETREAT|GREAT POWER|PROGRESS|DARKENING OF THE LIGHT
4DE4|HEXAGRAM FOR |THE FAMILY|OPPOSITION|OBSTRUCTION|DELIVERANCE|DECREASE|INCREASE|BREAKTHROUGH
4DEB|HEXAGRAM FOR |COMING TO MEET|GATHERING TOGETHER|PUSHING UPWARD|OPPRESSION|THE WELL|REVOLUTION
4DF1|HEXAGRAM FOR THE |CAULDRON|AROUSING THUNDER|KEEPING STILL MOUNTAIN
4DF4|HEXAGRAM FOR |DEVELOPMENT|THE MARRYING MAIDEN|ABUNDANCE|THE WANDERER|THE GENTLE WIND|THE JOYOUS LAKE
4DFA|HEXAGRAM FOR |DISPERSION|LIMITATION|INNER TRUTH|SMALL PREPONDERANCE|AFTER COMPLETION|BEFORE COMPLETION
A000|YI SYLLABLE |IT|IX|I|IP|IET|IEX|IE|IEP|AT|AX|A|AP|UOX|UO|UOP|OT|OX|O|OP|EX|E|WU|BIT|BIX|BI|BIP|BIET
A01B|YI SYLLABLE B|IEX|IE|IEP|AT|AX|A|AP|UOX|UO|UOP|OT|OX|O|OP|EX|E|EP|UT|UX|U|UP|URX|UR|YT|YX|Y|YP|YRX|YR
A038|YI SYLLABLE P|IT|IX|I|IP|IEX|IE|IEP|AT|AX|A|AP|UOX|UO|UOP|OT|OX|O|OP|UT|UX|U|UP|URX|UR|YT|YX|Y|YP|YRX
A055|YI SYLLABLE |PYR|BBIT|BBIX|BBI
A059|YI SYLLABLE BB|IP|IET|IEX|IE|IEP|AT|AX|A|AP|UOX|UO|UOP|OT|OX|O|OP|EX|E|EP|UT|UX|U|UP|URX|UR|YT|YX|Y|YP
A076|YI SYLLABLE NB|IT|IX|I|IP|IEX|IE|IEP|AT|AX|A|AP|OT|OX|O|OP|UT|UX|U|UP|URX|UR|YT|YX|Y|YP|YRX|YR
A091|YI SYLLABLE HM|IT|IX|I|IP|IEX|IE|IEP|AT|AX|A|AP|UOX|UO|UOP|OT|OX|O|OP|UT|UX|U|UP|URX|UR|YX|Y|YP|YRX|YR
A0AE|YI SYLLABLE MI|T|X||P|EX|E|EP
A0B5|YI SYLLABLE M|AT|AX|A|AP|UOT|UOX|UO|UOP|OT|OX|O|OP|EX|E|UT|UX|U|UP|URX|UR|YT|YX|Y|YP
A0CD|YI SYLLABLE F|IT|IX|I|IP|AT|AX|A|AP|OX|O|OP|UT|UX|U|UP|URX|UR|YT|YX|Y|YP
A0E2|YI SYLLABLE V|IT|IX|I|IP|IET|IEX|IE|IEP|AT|AX|A|AP|OT|OX|O|OP|EX|EP|UT|UX|U|UP|URX|UR|YT|YX|Y|YP|YRX|YR
A100|YI SYLLABLE D|IT|IX|I|IP|IEX|IE|IEP|AT|AX|A|AP|UOX|UO|OT|OX|O|OP|EX|E|EP|UT|UX|U|UP|URX|UR
A11A|YI SYLLABLE T|IT|IX|I|IP|IEX|IE|IEP|AT|AX|A|AP|UOT|UOX|UO|UOP|OT|OX|O|OP|EX|E|EP|UT|UX|U|UP|URX|UR
A136|YI SYLLABLE DD|IT|IX|I|IP|IEX|IE|IEP|AT|AX|A|AP|UOX|UO|UOP|OT|OX|O|OP|EX|E|EP|UT|UX|U|UP|URX|UR
A151|YI SYLLABLE ND|IT|IX|I|IP|IEX|IE|AT|AX|A|AP|OT|OX|O|OP|EX|E|EP|UT|UX|U|UP|URX|UR
A168|YI SYLLABLE HN|IT|IX|I|IP|IET|IEX|IE|IEP|AT|AX|A|AP|UOX|UO|OT|OX|OP|EX|E|EP|UT
A17D|YI SYLLABLE N|IT|IX|I|IP|IEX|IE|IEP|AX|A|AP|UOX|UO|UOP|OT|OX|O|OP|EX|E|EP|UT|UX|U|UP|URX|UR
A197|YI SYLLABLE HLI|T|X||P|EX|E|EP
A19E|YI SYLLABLE HL|AT|AX|A|AP|UOX|UO|UOP|OX|O|OP|EX|E|EP|UT|UX|U|UP|URX|UR|YT|YX|Y|YP|YRX|YR
A1B7|YI SYLLABLE L|IT|IX|I|IP|IET|IEX|IE|IEP|AT|AX|A|AP|UOT|UOX|UO|UOP|OT|OX|O|OP|EX|E|EP|UT|UX|U|UP|URX|UR
A1D4|YI SYLLABLE |LYT|LYX|LY|LYP|LYRX|LYR|GIT
A1DB|YI SYLLABLE G|IX|I|IP|IET|IEX|IE|IEP|AT|AX|A|AP|UOT|UOX|UO|UOP|OT|OX|O|OP|ET|EX|E|EP|UT|UX|U|UP|URX|UR
A1F8|YI SYLLABLE K|IT|IX|I|IP|IEX|IE|IEP|AT|AX|A|AP|UOX|UO|UOP|OT|OX|O|OP|ET|EX|E|EP|UT|UX|U|UP|URX|UR
A214|YI SYLLABLE GG|IT|IX|I|IEX|IE|IEP|AT|AX|A|AP|UOT|UOX|UO|UOP|OT|OX|O|OP|ET|EX|E|EP|UT|UX|U|UP|URX|UR
A230|YI SYLLABLE MG|IEX|IE|AT|AX|A|AP|UOX|UO|UOP|OT|OX|O|OP|EX|E|EP|UT|UX|U|UP|URX|UR
A246|YI SYLLABLE HX|IT|IX|I|IP|IET|IEX|IE|IEP|AT|AX|A|AP|UOT|UOX|UO|UOP|OT|OX|O|OP|EX|E|EP
A25D|YI SYLLABLE NG|IEX|IE|IEP|AT|AX|A|AP|UOT|UOX|UO|OT|OX|O|OP|EX|E|EP
A26E|YI SYLLABLE H|IT|IEX|IE|AT|AX|A|AP|UOT|UOX|UO|UOP|OT|OX|O|OP|EX|E|EP
A280|YI SYLLABLE W|AT|AX|A|AP|UOX|UO|UOP|OX|O|OP|EX|E|EP
A28D|YI SYLLABLE Z|IT|IX|I|IP|IEX|IE|IEP|AT|AX|A|AP|UOX|UO|UOP|OT|OX|O|OP|EX|E|EP|UT|UX|U|UP|URX|UR|YT|YX|Y
A2AB|YI SYLLABLE |ZYP|ZYRX|ZYR|CIT|CIX|CI|CIP|CIET
A2B3|YI SYLLABLE C|IEX|IE|IEP|AT|AX|A|AP|UOX|UO|UOP|OT|OX|O|OP|EX|E|EP|UT|UX|U|UP|URX|UR|YT|YX|Y|YP|YRX|YR
A2D0|YI SYLLABLE ZZ|IT|IX|I|IP|IET|IEX|IE|IEP|AT|AX|A|AP|OX|O|OP|EX|E|EP|UX|U|UP|URX|UR|YT|YX|Y|YP|YRX|YR
A2ED|YI SYLLABLE NZ|IT|IX|I|IP|IEX|IE|IEP|AT|AX|A|AP|UOX|UO|OX|OP|EX|E|UX|U|UP|URX|UR|YT|YX|Y|YP|YRX|YR
A309|YI SYLLABLE SI|T|X||P|EX|E|EP
A310|YI SYLLABLE S|AT|AX|A|AP|UOX|UO|UOP|OT|OX|O|OP|EX|E|EP|UT|UX|U|UP|URX|UR|YT|YX|Y|YP|YRX|YR
A32A|YI SYLLABLE SS|IT|IX|I|IP|IEX|IE|IEP|AT|AX|A|AP|OT|OX|O|OP|EX|E|EP|UT|UX|U|UP|YT|YX|Y|YP|YRX|YR
A346|YI SYLLABLE ZH|AT|AX|A|AP|UOX|UO|UOP|OT|OX|O|OP|ET|EX|E|EP|UT|UX|U|UP|URX|UR|YT|YX|Y|YP|YRX|YR
A361|YI SYLLABLE CH|AT|AX|A|AP|UOT|UOX|UO|UOP|OT|OX|O|OP|ET|EX|E|EP|UX|U|UP|URX|UR|YT|YX|Y|YP|YRX|YR
A37C|YI SYLLABLE RR|AX|A|UOX|UO|OT|OX|O|OP|ET|EX|E|EP|UT|UX|U|UP|URX|UR|YT|YX|Y|YP|YRX|YR
A394|YI SYLLABLE NR|AT|AX|A|AP|OX|O|OP|ET|EX|E|EP|UT|UX|U|UP|URX|UR|YT|YX|Y|YP|YRX|YR
A3AB|YI SYLLABLE SH|AT|AX|A|AP|UOX|UO|UOP|OT|OX|O|OP|ET|EX|E|EP|UT|UX|U|UP|URX|UR|YT|YX|Y|YP|YRX|YR
A3C6|YI SYLLABLE R|AT|AX|A|AP|UOX|UO|UOP|OT|OX|O|OP|EX|E|EP|UT|UX|U|UP|URX|UR|YT|YX|Y|YP|YRX|YR
A3E0|YI SYLLABLE J|IT|IX|I|IP|IET|IEX|IE|IEP|UOT|UOX|UO|UOP|OT|OX|O|OP|UT|UX|U|UP|URX|UR|YT|YX|Y|YP|YRX|YR
A3FC|YI SYLLABLE Q|IT|IX|I|IP|IET|IEX|IE|IEP|UOT|UOX|UO|UOP|OT|OX|O|OP|UT|UX|U|UP|URX|UR|YT|YX|Y|YP|YRX|YR
A418|YI SYLLABLE JJ|IT|IX|I|IP|IET|IEX|IE|IEP|UOX|UO|UOP|OT|OX|O|OP|UT|UX|U|UP|URX|UR|YT|YX|Y|YP
A431|YI SYLLABLE NJ|IT|IX|I|IP|IET|IEX|IE|IEP|UOX|UO|OT|OX|O|OP|UX|U|UP|URX|UR|YT|YX|Y|YP|YRX|YR
A44A|YI SYLLABLE NY|IT|IX|I|IP|IET|IEX|IE|IEP|UOX|UO|UOP|OT|OX|O|OP|UT|UX|U|UP
A45D|YI SYLLABLE X|IT|IX|I|IP|IET|IEX|IE|IEP|UOX|UO|OT|OX|O|OP|YT|YX|Y|YP|YRX|YR
A471|YI SYLLABLE Y|IT|IX|I|IP|IET|IEX|IE|IEP|UOT|UOX|UO|UOP|OT|OX|O|OP|UT|UX|U|UP|URX|UR|YT|YX|Y|YP|YRX|YR
A490|YI RADICAL |QOT|LI|KIT|NYIP|CYP|SSI|GGOP|GEP|MI|HXIT|LYR
A49B|YI RADICAL |BBUT|MOP|YO|PUT|HXUO|TAT|GA|ZUP|CYT|DDUR|BUR|GGUO|NYOP|TU|OP|JJUT|ZOT|PYT|HMO|YIT|VUR|SHY
A4B1|YI RADICAL |VEP|ZA|JO|NZUP|JJY|GOT|JJIE|WO|DU|SHUR|LIE|CY|CUOP|CIP|HXOP|SHAT|ZUR|SHOP|CHE|ZZIET|NBIE|KE
A4D0|LISU LETTER |BA|PA|PHA|DA|TA|THA|GA|KA|KHA|JA|CA|CHA|DZA|TSA|TSHA|MA|NA|LA
A4E2|LISU LETTER |SA|ZHA|ZA|NGA|HA|XA|HHA|FA|WA|SHA|YA|GHA|A|AE|E|EU|I|O|U|UE|UH|OE|TONE MYA TI|TONE NA PO
A4FA|LISU LETTER TONE MYA |CYA|BO|NA|JEU
A4FE|LISU PUNCTUATION |COMMA|FULL STOP
A500|VAI SYLLABLE |EE|EEN|HEE|WEE|WEEN|PEE|BHEE|BEE|MBEE|KPEE|MGBEE|GBEE
A50C|VAI SYLLABLE |FEE|VEE|TEE|THEE|DHEE|DHHEE|LEE|REE|DEE|NDEE|SEE|SHEE|ZEE|ZHEE|CEE|JEE|NJEE|YEE|KEE|NGGEE
A520|VAI SYLLABLE |GEE|MEE|NEE|NYEE|I|IN|HI|HIN|WI|WIN|PI|BHI|BI|MBI|KPI|MGBI|GBI|FI|VI|TI|THI|DHI|DHHI
A537|VAI SYLLABLE |LI|RI|DI|NDI|SI|SHI|ZI|ZHI|CI|JI|NJI|YI|KI|NGGI|GI|MI|NI|NYI|A|AN|NGAN|HA|HAN|WA|WAN|PA
A551|VAI SYLLABLE |BHA|BA|MBA|KPA|KPAN|MGBA|GBA|FA|VA|TA|THA|DHA|DHHA|LA|RA|DA|NDA|SA|SHA|ZA|ZHA|CA|JA|NJA
A569|VAI SYLLABLE |YA|KA|KAN|NGGA|GA|MA|NA|NYA|OO|OON|HOO|WOO|WOON|POO|BHOO|BOO|MBOO|KPOO|MGBOO|GBOO|FOO|VOO
A57F|VAI SYLLABLE |TOO|THOO|DHOO|DHHOO|LOO|ROO|DOO|NDOO|SOO|SHOO|ZOO|ZHOO|COO|JOO|NJOO|YOO|KOO|NGGOO|GOO|MOO
A593|VAI SYLLABLE |NOO|NYOO|U|UN|HU|HUN|WU|WUN|PU|BHU|BU|MBU|KPU|MGBU|GBU|FU|VU|TU|THU|DHU|DHHU|LU|RU|DU|NDU
A5AC|VAI SYLLABLE |SU|SHU|ZU|ZHU|CU|JU|NJU|YU|KU|NGGU|GU|MU|NU|NYU|O|ON|NGON|HO|HON|WO|WON|PO|BHO|BO|MBO|KPO
A5C6|VAI SYLLABLE |MGBO|GBO|GBON|FO|VO|TO|THO|DHO|DHHO|LO|RO|DO|NDO|SO|SHO|ZO|ZHO|CO|JO|NJO|YO|KO|NGGO|GO
A5DE|VAI SYLLABLE |MO|NO|NYO|E|EN|NGEN|HE|HEN|WE|WEN|PE|BHE|BE|MBE|KPE|KPEN|MGBE|GBE|GBEN|FE|VE|TE|THE|DHE
A5F6|VAI SYLLABLE |DHHE|LE|RE|DE|NDE|SE|SHE|ZE|ZHE|CE|JE|NJE|YE|KE|NGGE|NGGEN|GE|GEN|ME|NE|NYE|NG|LENGTHENER
A60D|VAI |COMMA|FULL STOP|QUESTION MARK
A610|VAI SYLLABLE NDOLE |FA|KA|SOO
A613|VAI SYMBOL |FEENG|KEENG|TING|NII|BANG|FAA|TAA|DANG|DOONG|KUNG|TONG|DO-O|JONG
A620|VAI DIGIT |ZERO|ONE|TWO|THREE|FOUR|FIVE|SIX|SEVEN|EIGHT|NINE
A62A|VAI SYLLABLE NDOLE |MA|DO
A640|CYRILLIC |CAPITAL LETTER ZEMLYA|SMALL LETTER ZEMLYA
A642|CYRILLIC |CAPITAL LETTER DZELO|SMALL LETTER DZELO|CAPITAL LETTER REVERSED DZE|SMALL LETTER REVERSED DZE
A646|CYRILLIC |CAPITAL LETTER IOTA|SMALL LETTER IOTA|CAPITAL LETTER DJERV|SMALL LETTER DJERV
A64A|CYRILLIC |CAPITAL LETTER MONOGRAPH UK|SMALL LETTER MONOGRAPH UK|CAPITAL LETTER BROAD OMEGA
A64D|CYRILLIC |SMALL LETTER BROAD OMEGA|CAPITAL LETTER NEUTRAL YER|SMALL LETTER NEUTRAL YER
A650|CYRILLIC |CAPITAL LETTER YERU WITH BACK YER|SMALL LETTER YERU WITH BACK YER|CAPITAL LETTER IOTIFIED YAT
A653|CYRILLIC |SMALL LETTER IOTIFIED YAT|CAPITAL LETTER REVERSED YU|SMALL LETTER REVERSED YU
A656|CYRILLIC |CAPITAL LETTER IOTIFIED A|SMALL LETTER IOTIFIED A|CAPITAL LETTER CLOSED LITTLE YUS
A659|CYRILLIC |SMALL LETTER CLOSED LITTLE YUS|CAPITAL LETTER BLENDED YUS|SMALL LETTER BLENDED YUS
A65C|CYRILLIC |CAPITAL LETTER IOTIFIED CLOSED LITTLE YUS|SMALL LETTER IOTIFIED CLOSED LITTLE YUS
A65E|CYRILLIC |CAPITAL LETTER YN|SMALL LETTER YN|CAPITAL LETTER REVERSED TSE
A661|CYRILLIC |SMALL LETTER REVERSED TSE|CAPITAL LETTER SOFT DE|SMALL LETTER SOFT DE|CAPITAL LETTER SOFT EL
A665|CYRILLIC |SMALL LETTER SOFT EL|CAPITAL LETTER SOFT EM|SMALL LETTER SOFT EM|CAPITAL LETTER MONOCULAR O
A669|CYRILLIC |SMALL LETTER MONOCULAR O|CAPITAL LETTER BINOCULAR O|SMALL LETTER BINOCULAR O
A66C|CYRILLIC |CAPITAL LETTER DOUBLE MONOCULAR O|SMALL LETTER DOUBLE MONOCULAR O|LETTER MULTIOCULAR O
A66F|COMBINING CYRILLIC |VZMET|TEN MILLIONS SIGN|HUNDRED MILLIONS SIGN|THOUSAND MILLIONS SIGN
A673||SLAVONIC ASTERISK
A674|COMBINING CYRILLIC LETTER |UKRAINIAN IE|I|YI|U|HARD SIGN|YERU|SOFT SIGN|OMEGA
A67C|COMBINING CYRILLIC |KAVYKA|PAYEROK
A67E|CYRILLIC |KAVYKA|PAYEROK|CAPITAL LETTER DWE|SMALL LETTER DWE|CAPITAL LETTER DZWE
A683|CYRILLIC |SMALL LETTER DZWE|CAPITAL LETTER ZHWE|SMALL LETTER ZHWE|CAPITAL LETTER CCHE
A687|CYRILLIC |SMALL LETTER CCHE|CAPITAL LETTER DZZE|SMALL LETTER DZZE|CAPITAL LETTER TE WITH MIDDLE HOOK
A68B|CYRILLIC |SMALL LETTER TE WITH MIDDLE HOOK|CAPITAL LETTER TWE|SMALL LETTER TWE|CAPITAL LETTER TSWE
A68F|CYRILLIC |SMALL LETTER TSWE|CAPITAL LETTER TSSE|SMALL LETTER TSSE|CAPITAL LETTER TCHE
A693|CYRILLIC |SMALL LETTER TCHE|CAPITAL LETTER HWE|SMALL LETTER HWE|CAPITAL LETTER SHWE|SMALL LETTER SHWE
A698|CYRILLIC |CAPITAL LETTER DOUBLE O|SMALL LETTER DOUBLE O|CAPITAL LETTER CROSSED O|SMALL LETTER CROSSED O
A69C|MODIFIER LETTER CYRILLIC |HARD SIGN|SOFT SIGN
A69E|COMBINING CYRILLIC LETTER |EF|IOTIFIED E
A6A0|BAMUM LETTER |A|KA|U|KU|EE|REE|TAE|O|NYI|I|LA|PA|RII|RIEE|LEEEE|MEEEE|TAA|NDAA
A6B2|BAMUM LETTER |NJAEM|M|SUU|MU|SHII|SI|SHEUX|SEUX|KYEE|KET|NUAE|NU|NJUAE|YOQ|SHU|YUQ|YA|NSHA|KEUX|PEUX
A6C6|BAMUM LETTER |NJEE|NTEE|PUE|WUE|PEE|FEE|RU|LU|MI|NI|REUX|RAE|KEN|NGKWAEN|NGGA|NGA|SHO|PUAE|FU|FOM|WA
A6DB|BAMUM LETTER |NA|LI|PI|LOQ|KO|MBEN|REN|MEN|MA|TI|KI|MO|MBAA|TET|KPA|TEN|NTUU|SAMBA|FAAMAE|KOVUU|KOGHOM
A6F0|BAMUM COMBINING MARK |KOQNDON|TUKWENTIS
A6F2|BAMUM |NJAEMLI|FULL STOP|COLON|COMMA|SEMICOLON|QUESTION MARK
A700|MODIFIER LETTER CHINESE TONE Y|IN PING|ANG PING|IN SHANG|ANG SHANG|IN QU|ANG QU|IN RU|ANG RU
A708|MODIFIER LETTER |EXTRA-HIGH DOTTED TONE BAR|HIGH DOTTED TONE BAR|MID DOTTED TONE BAR
A70B|MODIFIER LETTER |LOW DOTTED TONE BAR|EXTRA-LOW DOTTED TONE BAR|EXTRA-HIGH DOTTED LEFT-STEM TONE BAR
A70E|MODIFIER LETTER |HIGH DOTTED LEFT-STEM TONE BAR|MID DOTTED LEFT-STEM TONE BAR
A710|MODIFIER LETTER |LOW DOTTED LEFT-STEM TONE BAR|EXTRA-LOW DOTTED LEFT-STEM TONE BAR
A712|MODIFIER LETTER |EXTRA-HIGH LEFT-STEM TONE BAR|HIGH LEFT-STEM TONE BAR
A714|MODIFIER LETTER |MID LEFT-STEM TONE BAR|LOW LEFT-STEM TONE BAR|EXTRA-LOW LEFT-STEM TONE BAR
A717|MODIFIER LETTER |DOT VERTICAL BAR|DOT SLASH|DOT HORIZONTAL BAR|LOWER RIGHT CORNER ANGLE
A71B|MODIFIER LETTER RAISED |UP ARROW|DOWN ARROW|EXCLAMATION MARK|INVERTED EXCLAMATION MARK
A71F|MODIFIER LETTER |LOW INVERTED EXCLAMATION MARK|STRESS AND HIGH TONE|STRESS AND LOW TONE
A722||LATIN CAPITAL LETTER EGYPTOLOGICAL ALEF
A723|LATIN |SMALL LETTER EGYPTOLOGICAL ALEF|CAPITAL LETTER EGYPTOLOGICAL AIN
A725|LATIN |SMALL LETTER EGYPTOLOGICAL AIN|CAPITAL LETTER HENG|SMALL LETTER HENG|CAPITAL LETTER TZ
A729|LATIN |SMALL LETTER TZ|CAPITAL LETTER TRESILLO|SMALL LETTER TRESILLO|CAPITAL LETTER CUATRILLO
A72D|LATIN |SMALL LETTER CUATRILLO|CAPITAL LETTER CUATRILLO WITH COMMA|SMALL LETTER CUATRILLO WITH COMMA
A730|LATIN LETTER SMALL CAPITAL |F|S
A732|LATIN |CAPITAL LETTER AA|SMALL LETTER AA|CAPITAL LETTER AO
A735|LATIN |SMALL LETTER AO|CAPITAL LETTER AU|SMALL LETTER AU|CAPITAL LETTER AV|SMALL LETTER AV
A73A|LATIN |CAPITAL LETTER AV WITH HORIZONTAL BAR|SMALL LETTER AV WITH HORIZONTAL BAR|CAPITAL LETTER AY
A73D|LATIN |SMALL LETTER AY|CAPITAL LETTER REVERSED C WITH DOT|SMALL LETTER REVERSED C WITH DOT
A740|LATIN |CAPITAL LETTER K WITH STROKE|SMALL LETTER K WITH STROKE|CAPITAL LETTER K WITH DIAGONAL STROKE
A743|LATIN |SMALL LETTER K WITH DIAGONAL STROKE|CAPITAL LETTER K WITH STROKE AND DIAGONAL STROKE
A745|LATIN |SMALL LETTER K WITH STROKE AND DIAGONAL STROKE|CAPITAL LETTER BROKEN L
A747|LATIN |SMALL LETTER BROKEN L|CAPITAL LETTER L WITH HIGH STROKE|SMALL LETTER L WITH HIGH STROKE
A74A|LATIN |CAPITAL LETTER O WITH LONG STROKE OVERLAY|SMALL LETTER O WITH LONG STROKE OVERLAY
A74C|LATIN |CAPITAL LETTER O WITH LOOP|SMALL LETTER O WITH LOOP|CAPITAL LETTER OO|SMALL LETTER OO
A750|LATIN |CAPITAL LETTER P WITH STROKE THROUGH DESCENDER|SMALL LETTER P WITH STROKE THROUGH DESCENDER
A752|LATIN |CAPITAL LETTER P WITH FLOURISH|SMALL LETTER P WITH FLOURISH|CAPITAL LETTER P WITH SQUIRREL TAIL
A755|LATIN |SMALL LETTER P WITH SQUIRREL TAIL|CAPITAL LETTER Q WITH STROKE THROUGH DESCENDER
A757|LATIN |SMALL LETTER Q WITH STROKE THROUGH DESCENDER|CAPITAL LETTER Q WITH DIAGONAL STROKE
A759|LATIN |SMALL LETTER Q WITH DIAGONAL STROKE|CAPITAL LETTER R ROTUNDA|SMALL LETTER R ROTUNDA
A75C|LATIN |CAPITAL LETTER RUM ROTUNDA|SMALL LETTER RUM ROTUNDA|CAPITAL LETTER V WITH DIAGONAL STROKE
A75F|LATIN |SMALL LETTER V WITH DIAGONAL STROKE|CAPITAL LETTER VY|SMALL LETTER VY
A762|LATIN |CAPITAL LETTER VISIGOTHIC Z|SMALL LETTER VISIGOTHIC Z|CAPITAL LETTER THORN WITH STROKE
A765|LATIN |SMALL LETTER THORN WITH STROKE|CAPITAL LETTER THORN WITH STROKE THROUGH DESCENDER
A767|LATIN |SMALL LETTER THORN WITH STROKE THROUGH DESCENDER|CAPITAL LETTER VEND|SMALL LETTER VEND
A76A|LATIN |CAPITAL LETTER ET|SMALL LETTER ET|CAPITAL LETTER IS|SMALL LETTER IS|CAPITAL LETTER CON
A76F||LATIN SMALL LETTER CON|MODIFIER LETTER US
A771|LATIN SMALL LETTER |DUM|LUM|MUM|NUM|RUM
A776|LATIN |LETTER SMALL CAPITAL RUM|SMALL LETTER TUM|SMALL LETTER UM
A779|LATIN |CAPITAL LETTER INSULAR D|SMALL LETTER INSULAR D|CAPITAL LETTER INSULAR F|SMALL LETTER INSULAR F
A77D|LATIN CAPITAL LETTER |INSULAR G|TURNED INSULAR G
A77F||LATIN SMALL LETTER TURNED INSULAR G
A780|LATIN |CAPITAL LETTER TURNED L|SMALL LETTER TURNED L|CAPITAL LETTER INSULAR R|SMALL LETTER INSULAR R
A784|LATIN |CAPITAL LETTER INSULAR S|SMALL LETTER INSULAR S|CAPITAL LETTER INSULAR T|SMALL LETTER INSULAR T
A788|MODIFIER LETTER |LOW CIRCUMFLEX ACCENT|COLON|SHORT EQUALS SIGN
A78B|LATIN |CAPITAL LETTER SALTILLO|SMALL LETTER SALTILLO
A78D|LATIN |CAPITAL LETTER TURNED H|SMALL LETTER L WITH RETROFLEX HOOK AND BELT|LETTER SINOLOGICAL DOT
A790|LATIN |CAPITAL LETTER N WITH DESCENDER|SMALL LETTER N WITH DESCENDER|CAPITAL LETTER C WITH BAR
A793|LATIN SMALL LETTER |C WITH BAR|C WITH PALATAL HOOK|H WITH PALATAL HOOK
A796|LATIN |CAPITAL LETTER B WITH FLOURISH|SMALL LETTER B WITH FLOURISH|CAPITAL LETTER F WITH STROKE
A799|LATIN |SMALL LETTER F WITH STROKE|CAPITAL LETTER VOLAPUK AE|SMALL LETTER VOLAPUK AE
A79C|LATIN |CAPITAL LETTER VOLAPUK OE|SMALL LETTER VOLAPUK OE|CAPITAL LETTER VOLAPUK UE
A79F|LATIN |SMALL LETTER VOLAPUK UE|CAPITAL LETTER G WITH OBLIQUE STROKE|SMALL LETTER G WITH OBLIQUE STROKE
A7A2|LATIN |CAPITAL LETTER K WITH OBLIQUE STROKE|SMALL LETTER K WITH OBLIQUE STROKE
A7A4|LATIN |CAPITAL LETTER N WITH OBLIQUE STROKE|SMALL LETTER N WITH OBLIQUE STROKE
A7A6|LATIN |CAPITAL LETTER R WITH OBLIQUE STROKE|SMALL LETTER R WITH OBLIQUE STROKE
A7A8|LATIN |CAPITAL LETTER S WITH OBLIQUE STROKE|SMALL LETTER S WITH OBLIQUE STROKE
A7AA|LATIN CAPITAL LETTER |H WITH HOOK|REVERSED OPEN E|SCRIPT G|L WITH BELT|SMALL CAPITAL I
A7AF||LATIN LETTER SMALL CAPITAL Q
A7B0|LATIN CAPITAL LETTER |TURNED K|TURNED T|J WITH CROSSED-TAIL|CHI|BETA
A7B5||LATIN SMALL LETTER BETA
A7B6|LATIN |CAPITAL LETTER OMEGA|SMALL LETTER OMEGA|CAPITAL LETTER U WITH STROKE|SMALL LETTER U WITH STROKE
A7BA|LATIN |CAPITAL LETTER GLOTTAL A|SMALL LETTER GLOTTAL A|CAPITAL LETTER GLOTTAL I|SMALL LETTER GLOTTAL I
A7BE|LATIN |CAPITAL LETTER GLOTTAL U|SMALL LETTER GLOTTAL U|CAPITAL LETTER OLD POLISH O
A7C1|LATIN |SMALL LETTER OLD POLISH O|CAPITAL LETTER ANGLICANA W|SMALL LETTER ANGLICANA W
A7C4|LATIN CAPITAL LETTER |C WITH PALATAL HOOK|S WITH HOOK|Z WITH PALATAL HOOK|D WITH SHORT STROKE OVERLAY
A7C8||LATIN SMALL LETTER D WITH SHORT STROKE OVERLAY
A7C9|LATIN |CAPITAL LETTER S WITH SHORT STROKE OVERLAY|SMALL LETTER S WITH SHORT STROKE OVERLAY
A7D0|LATIN |CAPITAL LETTER CLOSED INSULAR G|SMALL LETTER CLOSED INSULAR G
A7D3||LATIN SMALL LETTER DOUBLE THORN
A7D5|LATIN |SMALL LETTER DOUBLE WYNN|CAPITAL LETTER MIDDLE SCOTS S
A7D7|LATIN |SMALL LETTER MIDDLE SCOTS S|CAPITAL LETTER SIGMOID S|SMALL LETTER SIGMOID S
A7F2|MODIFIER LETTER CAPITAL |C|F|Q
A7F5|LATIN |CAPITAL LETTER REVERSED HALF H|SMALL LETTER REVERSED HALF H|EPIGRAPHIC LETTER SIDEWAYS I
A7F8|MODIFIER LETTER |CAPITAL H WITH STROKE|SMALL LIGATURE OE
A7FA||LATIN LETTER SMALL CAPITAL TURNED M
A7FB|LATIN EPIGRAPHIC LETTER |REVERSED F|REVERSED P|INVERTED M|I LONGA|ARCHAIC M
A800|SYLOTI NAGRI |LETTER A|LETTER I|SIGN DVISVARA|LETTER U|LETTER E|LETTER O|SIGN HASANTA
A807|SYLOTI NAGRI LETTER |KO|KHO|GO|GHO
A80B||SYLOTI NAGRI SIGN ANUSVARA
A80C|SYLOTI NAGRI LETTER |CO|CHO|JO|JHO|TTO|TTHO|DDO|DDHO|TO|THO|DO|DHO|NO|PO|PHO|BO|BHO|MO|RO|LO|RRO|SO|HO
A823|SYLOTI NAGRI VOWEL SIGN |A|I|U|E|OO
A828|SYLOTI NAGRI POETRY MARK-|1|2|3|4
A82C||SYLOTI NAGRI SIGN ALTERNATE HASANTA
A830|NORTH INDIC FRACTION |ONE QUARTER|ONE HALF|THREE QUARTERS|ONE SIXTEENTH|ONE EIGHTH|THREE SIXTEENTHS
A836|NORTH INDIC |QUARTER MARK|PLACEHOLDER MARK|RUPEE MARK|QUANTITY MARK
A840|PHAGS-PA LETTER |KA|KHA|GA|NGA|CA|CHA|JA|NYA|TA|THA|DA|NA|PA
A84D|PHAGS-PA LETTER |PHA|BA|MA|TSA|TSHA|DZA|WA|ZHA|ZA|SMALL A|YA|RA|LA|SHA|SA|HA|A|I|U|E|O|QA|XA|FA|GGA|EE
A867|PHAGS-PA SUBJOINED LETTER |WA|YA
A869|PHAGS-PA LETTER |TTA|TTHA|DDA|NNA|ALTERNATE YA|VOICELESS SHA|VOICED HA|ASPIRATED FA
A871|PHAGS-PA |SUBJOINED LETTER RA|SUPERFIXED LETTER RA|LETTER CANDRABINDU|SINGLE HEAD MARK|DOUBLE HEAD MARK
A876|PHAGS-PA MARK |SHAD|DOUBLE SHAD
A880|SAURASHTRA SIGN |ANUSVARA|VISARGA
A882|SAURASHTRA LETTER |A|AA|I|II|U|UU|VOCALIC R|VOCALIC RR
A88A|SAURASHTRA LETTER |VOCALIC L|VOCALIC LL|E|EE|AI|O|OO|AU|KA|KHA|GA|GHA|NGA|CA|CHA|JA|JHA|NYA|TTA
A89D|SAURASHTRA LETTER |TTHA|DDA|DDHA|NNA|TA|THA|DA|DHA|NA|PA|PHA|BA|BHA|MA|YA|RA|LA|VA|SHA|SSA|SA|HA|LLA
A8B4||SAURASHTRA CONSONANT SIGN HAARU
A8B5|SAURASHTRA VOWEL SIGN |AA|I|II|U|UU|VOCALIC R|VOCALIC RR|VOCALIC L|VOCALIC LL|E|EE|AI|O|OO|AU
A8C4|SAURASHTRA SIGN |VIRAMA|CANDRABINDU
A8CE|SAURASHTRA D|ANDA|OUBLE DANDA
A8D0|SAURASHTRA DIGIT |ZERO|ONE|TWO|THREE|FOUR|FIVE|SIX|SEVEN|EIGHT|NINE
A8E0|COMBINING DEVANAGARI DIGIT |ZERO|ONE|TWO|THREE|FOUR|FIVE|SIX|SEVEN|EIGHT|NINE
A8EA|COMBINING DEVANAGARI LETTER |A|U|KA|NA|PA|RA|VI
A8F1||COMBINING DEVANAGARI SIGN AVAGRAHA
A8F2|DEVANAGARI SIGN |SPACING CANDRABINDU|CANDRABINDU VIRAMA|DOUBLE CANDRABINDU VIRAMA
A8F5|DEVANAGARI SIGN CANDRABINDU |TWO|THREE|AVAGRAHA
A8F8|DEVANAGARI |SIGN PUSHPIKA|GAP FILLER|CARET|HEADSTROKE|SIGN SIDDHAM|JAIN OM|LETTER AY|VOWEL SIGN AY
A900|KAYAH LI DIGIT |ZERO|ONE|TWO|THREE|FOUR|FIVE|SIX|SEVEN|EIGHT|NINE
A90A|KAYAH LI LETTER K|A|HA
A90C|KAYAH LI LETTER |GA|NGA|SA|SHA|ZA|NYA|TA|HTA|NA|PA|PHA|MA|DA|BA|RA|YA|LA|WA|THA|HA|VA|CA|A|OE|I|OO
A926|KAYAH LI VOWEL |UE|E|U|EE|O
A92B|KAYAH LI |TONE PLOPHU|TONE CALYA|TONE CALYA PLOPHU|SIGN CWI|SIGN SHYA
A930|REJANG LETTER |KA|GA|NGA|TA|DA|NA|PA|BA|MA|CA|JA|NYA|SA|RA|LA|YA|WA|HA|MBA|NGGA|NDA|NYJA|A
A947|REJANG VOWEL SIGN |I|U|E|AI|O|AU|EU|EA
A94F|REJANG CONSONANT SIGN |NG|N|R|H
A953||REJANG VIRAMA
A95F||REJANG SECTION MARK
A960|HANGUL CHOSEONG TIKEUT-|MIEUM|PIEUP|SIOS|CIEUC
A964|HANGUL CHOSEONG RIEUL-|KIYEOK|SSANGKIYEOK|TIKEUT|SSANGTIKEUT|MIEUM|PIEUP|SSANGPIEUP|KAPYEOUNPIEUP|SIOS
A96D|HANGUL CHOSEONG |RIEUL-CIEUC|RIEUL-KHIEUKH|MIEUM-KIYEOK|MIEUM-TIKEUT
A971|HANGUL CHOSEONG |MIEUM-SIOS|PIEUP-SIOS-THIEUTH|PIEUP-KHIEUKH|PIEUP-HIEUH|SSANGSIOS-PIEUP|IEUNG-RIEUL
A977|HANGUL CHOSEONG |IEUNG-HIEUH|SSANGCIEUC-HIEUH|SSANGTHIEUTH|PHIEUPH-HIEUH|HIEUH-SIOS|SSANGYEORINHIEUH
A980|JAVANESE SIGN |PANYANGGA|CECAK|LAYAR|WIGNYAN
A984|JAVANESE LETTER |A|I KAWI|I|II|U|PA CEREK|NGA LELET|NGA LELET RASWADI
A98C|JAVANESE LETTER |E|AI|O|KA|KA SASAK|KA MURDA|GA|GA MURDA|NGA|CA|CA MURDA|JA|NYA MURDA|JA MAHAPRANA
A99A|JAVANESE LETTER |NYA|TTA|TTA MAHAPRANA|DDA|DDA MAHAPRANA|NA MURDA|TA|TA MURDA|DA|DA MAHAPRANA
A9A4|JAVANESE LETTER |NA|PA|PA MURDA|BA|BA MURDA|MA|YA|RA|RA AGUNG|LA|WA|SA MURDA|SA MAHAPRANA|SA|HA
A9B3||JAVANESE SIGN CECAK TELU
A9B4|JAVANESE VOWEL SIGN |TARUNG|TOLONG|WULU|WULU MELIK|SUKU|SUKU MENDUT|TALING|DIRGA MURE|PEPET
A9BD|JAVANESE CONSONANT SIGN |KERET|PENGKAL|CAKRA
A9C0|JAVANESE |PANGKON|LEFT RERENGGAN|RIGHT RERENGGAN
A9C3|JAVANESE PADA |ANDAP|MADYA|LUHUR|WINDU|PANGKAT|LINGSA|LUNGSI|ADEG|ADEG ADEG|PISELEH
A9CD||JAVANESE TURNED PADA PISELEH
A9CF||JAVANESE PANGRANGKEP
A9D0|JAVANESE DIGIT |ZERO|ONE|TWO|THREE|FOUR|FIVE|SIX|SEVEN|EIGHT|NINE
A9DE|JAVANESE PADA |TIRTA TUMETES|ISEN-ISEN
A9E0|MYANMAR LETTER SHAN |GHA|CHA|JHA|NNA|BHA
A9E5|MYANMAR |SIGN SHAN SAW|MODIFIER LETTER SHAN REDUPLICATION
A9E7|MYANMAR LETTER TAI LAING |NYA|FA|GA|GHA|JA|JHA|DDA|DDHA|NNA
A9F0|MYANMAR TAI LAING DIGIT |ZERO|ONE|TWO|THREE|FOUR|FIVE|SIX|SEVEN|EIGHT|NINE
A9FA|MYANMAR LETTER TAI LAING |LLA|DA|DHA|BA|BHA
AA00|CHAM LETTER |A|I|U|E|AI|O|KA|KHA|GA|GHA|NGUE|NGA|CHA|CHHA|JA|JHA
AA10|CHAM LETTER |NHUE|NHA|NHJA|TA|THA|DA|DHA|NUE|NA|DDA|PA|PPA|PHA|BA|BHA|MUE|MA|BBA|YA|RA|LA|VA|SSA|SA|HA
AA29|CHAM VOWEL SIGN |AA|I|II|EI|U|OE|O|AI|AU|UE
AA33|CHAM CONSONANT SIGN |YA|RA|LA|WA
AA40|CHAM LETTER FINAL |K|G|NG
AA43||CHAM CONSONANT SIGN FINAL NG
AA44|CHAM LETTER FINAL |CH|T|N|P|Y|R|L|SS
AA4C|CHAM CONSONANT SIGN FINAL |M|H
AA50|CHAM DIGIT |ZERO|ONE|TWO|THREE|FOUR|FIVE|SIX|SEVEN|EIGHT|NINE
AA5C|CHAM PUNCTUATION |SPIRAL|DANDA|DOUBLE DANDA|TRIPLE DANDA
AA60|MYANMAR LETTER KHAMTI |GA|CA|CHA|JA|JHA|NYA|TTA|TTHA|DDA|DDHA|DHA|NA|SA|HA|HHA|FA
AA70||MYANMAR MODIFIER LETTER KHAMTI REDUPLICATION
AA71|MYANMAR LETTER KHAMTI |XA|ZA|RA
AA74|MYANMAR LOGOGRAM KHAMTI |OAY|QN|HM
AA77|MYANMAR SYMBOL AITON |EXCLAMATION|ONE|TWO
AA7A|MYANMAR |LETTER AITON RA|SIGN PAO KAREN TONE
AA7C|MYANMAR SIGN TAI LAING TONE-|2|5
AA7E|MYANMAR LETTER SHWE PALAUNG |CHA|SHA
AA80|TAI VIET LETTER |LOW KO|HIGH KO|LOW KHO|HIGH KHO|LOW KHHO
AA85|TAI VIET LETTER |HIGH KHHO|LOW GO|HIGH GO|LOW NGO|HIGH NGO|LOW CO|HIGH CO|LOW CHO|HIGH CHO|LOW SO
AA8F|TAI VIET LETTER |HIGH SO|LOW NYO|HIGH NYO|LOW DO|HIGH DO|LOW TO|HIGH TO|LOW THO|HIGH THO|LOW NO|HIGH NO
AA9A|TAI VIET LETTER |LOW BO|HIGH BO|LOW PO|HIGH PO|LOW PHO|HIGH PHO|LOW FO|HIGH FO|LOW MO|HIGH MO|LOW YO
AAA5|TAI VIET LETTER |HIGH YO|LOW RO|HIGH RO|LOW LO|HIGH LO|LOW VO|HIGH VO|LOW HO|HIGH HO|LOW O|HIGH O
AAB0|TAI VIET |MAI KANG|VOWEL AA|VOWEL I|VOWEL UE|VOWEL U|VOWEL E|VOWEL O|MAI KHIT
AAB8|TAI VIET VOWEL |IA|UEA|UA|AUE|AY|AN|AM
AABF|TAI VIET TONE MAI |EK|NUENG|THO|SONG
AADB|TAI VIET SYMBOL |KON|NUENG|SAM|HO HOI|KOI KOI
AAE0|MEETEI MAYEK LETTER |E|O|CHA|NYA|TTA|TTHA|DDA|DDHA|NNA|SHA|SSA
AAEB|MEETEI MAYEK VOWEL SIGN |II|UU|AAI|AU|AAU
AAF0|MEETEI MAYEK |CHEIKHAN|AHANG KHUDAM|ANJI|SYLLABLE REPETITION MARK|WORD REPETITION MARK
AAF5|MEETEI MAYEK V|OWEL SIGN VISARGA|IRAMA
AB01|ETHIOPIC SYLLABLE TTH|U|I|AA|EE|E|O
AB09|ETHIOPIC SYLLABLE DDH|U|I|AA|EE|E|O
AB11|ETHIOPIC SYLLABLE DZ|U|I|AA|EE|E|O
AB20|ETHIOPIC SYLLABLE CCHH|A|U|I|AA|EE|E|O
AB28|ETHIOPIC SYLLABLE BB|A|U|I|AA|EE|E|O
AB30|LATIN SMALL LETTER |BARRED ALPHA|A REVERSED-SCHWA|BLACKLETTER E|BARRED E|E WITH FLOURISH|LENIS F
AB36|LATIN SMALL LETTER |SCRIPT G WITH CROSSED-TAIL|L WITH INVERTED LAZY S|L WITH DOUBLE MIDDLE TILDE
AB39|LATIN SMALL LETTER |L WITH MIDDLE RING|M WITH CROSSED-TAIL|N WITH CROSSED-TAIL|ENG WITH CROSSED-TAIL
AB3D|LATIN SMALL LETTER |BLACKLETTER O|BLACKLETTER O WITH STROKE|OPEN O WITH STROKE|INVERTED OE
AB41|LATIN SMALL LETTER TURNED O|E WITH STROKE|E WITH HORIZONTAL STROKE| OPEN-O| OPEN-O WITH STROKE
AB45|LATIN |SMALL LETTER STIRRUP R|LETTER SMALL CAPITAL R WITH RIGHT LEG
AB47|LATIN SMALL LETTER |R WITHOUT HANDLE|DOUBLE R|R WITH CROSSED-TAIL
AB4A|LATIN SMALL LETTER |DOUBLE R WITH CROSSED-TAIL|SCRIPT R|SCRIPT R WITH RING|BASELINE ESH
AB4E|LATIN SMALL LETTER |U WITH SHORT RIGHT LEG|U BAR WITH SHORT RIGHT LEG|UI|TURNED UI|U WITH LEFT HOOK
AB53|LATIN SMALL LETTER |CHI|CHI WITH LOW RIGHT RING|CHI WITH LOW LEFT SERIF|X WITH LOW RIGHT RING
AB57|LATIN SMALL LETTER X WITH LONG LEFT LEG|| AND LOW RIGHT RING| WITH SERIF
AB5A||LATIN SMALL LETTER Y WITH SHORT RIGHT LEG|MODIFIER BREVE WITH INVERTED BREVE
AB5C|MODIFIER LETTER SMALL |HENG|L WITH INVERTED LAZY S|L WITH MIDDLE TILDE|U WITH LEFT HOOK
AB60|LATIN SMALL LETTER |SAKHA YAT|IOTIFIED E|OPEN OE|UO|INVERTED ALPHA
AB65||GREEK LETTER SMALL CAPITAL OMEGA|LATIN SMALL LETTER DZ DIGRAPH WITH RETROFLEX HOOK
AB67|LATIN SMALL LETTER T|S DIGRAPH WITH RETROFLEX HOOK|URNED R WITH MIDDLE TILDE
AB69|MODIFIER LETTER |SMALL TURNED W|LEFT TACK|RIGHT TACK
AB70|CHEROKEE SMALL LETTER |A|E|I|O|U|V|GA
AB77|CHEROKEE SMALL LETTER |KA|GE|GI|GO|GU|GV|HA|HE|HI|HO|HU|HV|LA|LE|LI|LO|LU|LV|MA|ME|MI|MO|MU|NA|HNA|NAH
AB91|CHEROKEE SMALL LETTER |NE|NI|NO|NU|NV|QUA|QUE|QUI|QUO|QUU|QUV|SA|S|SE|SI|SO|SU|SV|DA|TA|DE|TE|DI|TI|DO
ABAA|CHEROKEE SMALL LETTER |DU|DV|DLA|TLA|TLE|TLI|TLO|TLU|TLV|TSA|TSE|TSI|TSO|TSU|TSV|WA|WE|WI|WO|WU|WV|YA
ABC0|MEETEI MAYEK LETTER |KOK|SAM|LAI|MIT|PA|NA|CHIL|TIL|KHOU|NGOU|THOU
ABCB|MEETEI MAYEK LETTER |WAI|YANG|HUK|UN|I|PHAM|ATIYA|GOK|JHAM|RAI|BA|JIL|DIL|GHOU|DHOU|BHAM|KOK LONSUM
ABDC|MEETEI MAYEK LETTER |LAI LONSUM|MIT LONSUM|PA LONSUM|NA LONSUM|TIL LONSUM|NGOU LONSUM|I LONSUM
ABE3|MEETEI MAYEK VOWEL SIGN |ONAP|INAP|ANAP|YENAP|SOUNAP|UNAP|CHEINAP|NUNG
ABEB|MEETEI MAYEK |CHEIKHEI|LUM IYEK|APUN IYEK
ABF0|MEETEI MAYEK DIGIT |ZERO|ONE|TWO|THREE|FOUR|FIVE|SIX|SEVEN|EIGHT|NINE
D7B0|HANGUL JUNGSEONG |O-YEO|O-O-I|YO-A|YO-AE|YO-EO|U-YEO|U-I-I|YU-AE
D7B8|HANGUL JUNGSEONG |YU-O|EU-A|EU-EO|EU-E|EU-O|I-YA-O|I-YAE|I-YEO|I-YE|I-O-I|I-YO|I-YU|I-I|ARAEA-A|ARAEA-E
D7CB|HANGUL JONGSEONG |NIEUN-RIEUL|NIEUN-CHIEUCH|SSANGTIKEUT|SSANGTIKEUT-PIEUP
D7CF|HANGUL JONGSEONG TIKEUT-|PIEUP|SIOS|SIOS-KIYEOK|CIEUC|CHIEUCH|THIEUTH
D7D5|HANGUL JONGSEONG |RIEUL-SSANGKIYEOK|RIEUL-KIYEOK-HIEUH|SSANGRIEUL-KHIEUKH
D7D8|HANGUL JONGSEONG RIEUL-|MIEUM-HIEUH|PIEUP-TIKEUT|PIEUP-PHIEUPH|YESIEUNG|YEORINHIEUH-HIEUH
D7DD|HANGUL JONGSEONG |KAPYEOUNRIEUL|MIEUM-NIEUN|MIEUM-SSANGNIEUN|SSANGMIEUM|MIEUM-PIEUP-SIOS|MIEUM-CIEUC
D7E3|HANGUL JONGSEONG |PIEUP-TIKEUT|PIEUP-RIEUL-PHIEUPH|PIEUP-MIEUM|SSANGPIEUP|PIEUP-SIOS-TIKEUT|PIEUP-CIEUC
D7E9|HANGUL JONGSEONG |PIEUP-CHIEUCH|SIOS-MIEUM|SIOS-KAPYEOUNPIEUP|SSANGSIOS-KIYEOK|SSANGSIOS-TIKEUT
D7EE|HANGUL JONGSEONG SIOS-|PANSIOS|CIEUC|CHIEUCH|THIEUTH|HIEUH
D7F3|HANGUL JONGSEONG |PANSIOS-PIEUP|PANSIOS-KAPYEOUNPIEUP|YESIEUNG-MIEUM
D7F6|HANGUL JONGSEONG |YESIEUNG-HIEUH|CIEUC-PIEUP|CIEUC-SSANGPIEUP|SSANGCIEUC|PHIEUPH-SIOS|PHIEUPH-THIEUTH
FB00|LATIN SMALL LIGATURE |FF|FI|FL|FFI|FFL|LONG S T|ST
FB13|ARMENIAN SMALL LIGATURE |MEN NOW|MEN ECH|MEN INI|VEW NOW|MEN XEH
FB1D|HEBREW |LETTER YOD WITH HIRIQ|POINT JUDEO-SPANISH VARIKA
FB1F|HEBREW L|IGATURE YIDDISH YOD YOD PATAH|ETTER ALTERNATIVE AYIN
FB21|HEBREW LETTER WIDE |ALEF|DALET|HE|KAF|LAMED|FINAL MEM|RESH|TAV
FB29||HEBREW LETTER ALTERNATIVE PLUS SIGN
FB2A|HEBREW LETTER SHIN WITH |SHIN DOT|SIN DOT|DAGESH AND SHIN DOT|DAGESH AND SIN DOT
FB2E|HEBREW LETTER |ALEF WITH PATAH|ALEF WITH QAMATS|ALEF WITH MAPIQ|BET WITH DAGESH
FB32|HEBREW LETTER |GIMEL WITH DAGESH|DALET WITH DAGESH|HE WITH MAPIQ|VAV WITH DAGESH|ZAYIN WITH DAGESH
FB38|HEBREW LETTER |TET WITH DAGESH|YOD WITH DAGESH|FINAL KAF WITH DAGESH|KAF WITH DAGESH|LAMED WITH DAGESH
FB3E||HEBREW LETTER MEM WITH DAGESH
FB40|HEBREW LETTER |NUN WITH DAGESH|SAMEKH WITH DAGESH
FB43|HEBREW LETTER |FINAL PE WITH DAGESH|PE WITH DAGESH
FB46|HEBREW LETTER |TSADI WITH DAGESH|QOF WITH DAGESH|RESH WITH DAGESH
FB49|HEBREW LETTER |SHIN WITH DAGESH|TAV WITH DAGESH|VAV WITH HOLAM|BET WITH RAFE|KAF WITH RAFE|PE WITH RAFE
FB4F||HEBREW LIGATURE ALEF LAMED
FB50|ARABIC LETTER ALEF WASLA |ISOLATED FORM|FINAL FORM
FB52|ARABIC LETTER BEEH |ISOLATED FORM|FINAL FORM|INITIAL FORM|MEDIAL FORM
FB56|ARABIC LETTER PEH |ISOLATED FORM|FINAL FORM|INITIAL FORM|MEDIAL FORM
FB5A|ARABIC LETTER BEHEH |ISOLATED FORM|FINAL FORM|INITIAL FORM|MEDIAL FORM
FB5E|ARABIC LETTER TTEHEH |ISOLATED FORM|FINAL FORM|INITIAL FORM|MEDIAL FORM
FB62|ARABIC LETTER TEHEH |ISOLATED FORM|FINAL FORM|INITIAL FORM|MEDIAL FORM
FB66|ARABIC LETTER TTEH |ISOLATED FORM|FINAL FORM|INITIAL FORM|MEDIAL FORM
FB6A|ARABIC LETTER VEH |ISOLATED FORM|FINAL FORM|INITIAL FORM|MEDIAL FORM
FB6E|ARABIC LETTER PEHEH |ISOLATED FORM|FINAL FORM|INITIAL FORM|MEDIAL FORM
FB72|ARABIC LETTER DYEH |ISOLATED FORM|FINAL FORM|INITIAL FORM|MEDIAL FORM
FB76|ARABIC LETTER NYEH |ISOLATED FORM|FINAL FORM|INITIAL FORM|MEDIAL FORM
FB7A|ARABIC LETTER TCHEH |ISOLATED FORM|FINAL FORM|INITIAL FORM|MEDIAL FORM
FB7E|ARABIC LETTER TCHEHEH |ISOLATED FORM|FINAL FORM|INITIAL FORM|MEDIAL FORM
FB82|ARABIC LETTER DDAHAL |ISOLATED FORM|FINAL FORM
FB84|ARABIC LETTER D|AHAL ISOLATED FORM|AHAL FINAL FORM|UL ISOLATED FORM|UL FINAL FORM|DAL ISOLATED FORM
FB89|ARABIC LETTER |DDAL FINAL FORM|JEH ISOLATED FORM|JEH FINAL FORM|RREH ISOLATED FORM|RREH FINAL FORM
FB8E|ARABIC LETTER KEHEH |ISOLATED FORM|FINAL FORM|INITIAL FORM|MEDIAL FORM
FB92|ARABIC LETTER GAF |ISOLATED FORM|FINAL FORM|INITIAL FORM|MEDIAL FORM
FB96|ARABIC LETTER GUEH |ISOLATED FORM|FINAL FORM|INITIAL FORM|MEDIAL FORM
FB9A|ARABIC LETTER NGOEH |ISOLATED FORM|FINAL FORM|INITIAL FORM|MEDIAL FORM
FB9E|ARABIC LETTER NOON GHUNNA |ISOLATED FORM|FINAL FORM
FBA0|ARABIC LETTER RNOON |ISOLATED FORM|FINAL FORM|INITIAL FORM|MEDIAL FORM
FBA4|ARABIC LETTER HEH WITH YEH ABOVE |ISOLATED FORM|FINAL FORM
FBA6|ARABIC LETTER HEH GOAL |ISOLATED FORM|FINAL FORM|INITIAL FORM|MEDIAL FORM
FBAA|ARABIC LETTER HEH DOACHASHMEE |ISOLATED FORM|FINAL FORM|INITIAL FORM|MEDIAL FORM
FBAE|ARABIC LETTER YEH BARREE |ISOLATED FORM|FINAL FORM
FBB0|ARABIC LETTER YEH BARREE WITH HAMZA ABOVE |ISOLATED FORM|FINAL FORM
FBB2|ARABIC SYMBOL |DOT ABOVE|DOT BELOW|TWO DOTS ABOVE|TWO DOTS BELOW
FBB6|ARABIC SYMBOL THREE DOTS |ABOVE|BELOW|POINTING DOWNWARDS ABOVE|POINTING DOWNWARDS BELOW
FBBA|ARABIC SYMBOL |FOUR DOTS ABOVE|FOUR DOTS BELOW|DOUBLE VERTICAL BAR BELOW|TWO DOTS VERTICALLY ABOVE
FBBE|ARABIC SYMBOL |TWO DOTS VERTICALLY BELOW|RING|SMALL TAH ABOVE|SMALL TAH BELOW|WASLA ABOVE
FBD3|ARABIC LETTER NG |ISOLATED FORM|FINAL FORM|INITIAL FORM|MEDIAL FORM
FBD7|ARABIC LETTER |U ISOLATED FORM|U FINAL FORM|OE ISOLATED FORM|OE FINAL FORM|YU ISOLATED FORM
FBDC|ARABIC LETTER |YU FINAL FORM|U WITH HAMZA ABOVE ISOLATED FORM|VE ISOLATED FORM|VE FINAL FORM
FBE0|ARABIC LETTER KIRGHIZ |OE ISOLATED FORM|OE FINAL FORM|YU ISOLATED FORM|YU FINAL FORM
FBE4|ARABIC LETTER E |ISOLATED FORM|FINAL FORM|INITIAL FORM|MEDIAL FORM
FBE8|ARABIC LETTER UIGHUR KAZAKH KIRGHIZ ALEF MAKSURA |INITIAL FORM|MEDIAL FORM
FBEA|ARABIC LIGATURE YEH WITH HAMZA ABOVE WITH ALEF |ISOLATED FORM|FINAL FORM
FBEC|ARABIC LIGATURE YEH WITH HAMZA ABOVE WITH |AE ISOLATED FORM|AE FINAL FORM|WAW ISOLATED FORM
FBEF|ARABIC LIGATURE YEH WITH HAMZA ABOVE WITH |WAW FINAL FORM|U ISOLATED FORM|U FINAL FORM|OE ISOLATED FORM
FBF3|ARABIC LIGATURE YEH WITH HAMZA ABOVE WITH |OE FINAL FORM|YU ISOLATED FORM|YU FINAL FORM
FBF6|ARABIC LIGATURE YEH WITH HAMZA ABOVE WITH E |ISOLATED FORM|FINAL FORM|INITIAL FORM
FBF9||ARABIC LIGATURE UIGHUR KIRGHIZ YEH WITH HAMZA ABOVE WITH ALEF MAKSURA ISOLATED FORM
FBFA|ARABIC LIGATURE UIGHUR KIRGHIZ YEH WITH HAMZA ABOVE WITH ALEF MAKSURA |FINAL FORM|INITIAL FORM
FBFC|ARABIC LETTER FARSI YEH |ISOLATED FORM|FINAL FORM|INITIAL FORM|MEDIAL FORM
FC00|ARABIC LIGATURE YEH WITH HAMZA ABOVE WITH |JEEM ISOLATED FORM|HAH ISOLATED FORM|MEEM ISOLATED FORM
FC03|ARABIC LIGATURE YEH WITH HAMZA ABOVE WITH |ALEF MAKSURA ISOLATED FORM|YEH ISOLATED FORM
FC05|ARABIC LIGATURE BEH WITH |JEEM ISOLATED FORM|HAH ISOLATED FORM|KHAH ISOLATED FORM
FC08|ARABIC LIGATURE BEH WITH |MEEM ISOLATED FORM|ALEF MAKSURA ISOLATED FORM|YEH ISOLATED FORM
FC0B|ARABIC LIGATURE TEH WITH |JEEM ISOLATED FORM|HAH ISOLATED FORM|KHAH ISOLATED FORM
FC0E|ARABIC LIGATURE TEH WITH |MEEM ISOLATED FORM|ALEF MAKSURA ISOLATED FORM|YEH ISOLATED FORM
FC11|ARABIC LIGATURE THEH WITH |JEEM ISOLATED FORM|MEEM ISOLATED FORM|ALEF MAKSURA ISOLATED FORM
FC14|ARABIC LIGATURE |THEH WITH YEH ISOLATED FORM|JEEM WITH HAH ISOLATED FORM|JEEM WITH MEEM ISOLATED FORM
FC17|ARABIC LIGATURE HAH WITH |JEEM ISOLATED FORM|MEEM ISOLATED FORM
FC19|ARABIC LIGATURE KHAH WITH |JEEM ISOLATED FORM|HAH ISOLATED FORM|MEEM ISOLATED FORM
FC1C|ARABIC LIGATURE SEEN WITH |JEEM ISOLATED FORM|HAH ISOLATED FORM|KHAH ISOLATED FORM|MEEM ISOLATED FORM
FC20|ARABIC LIGATURE SAD WITH |HAH ISOLATED FORM|MEEM ISOLATED FORM
FC22|ARABIC LIGATURE DAD WITH |JEEM ISOLATED FORM|HAH ISOLATED FORM|KHAH ISOLATED FORM|MEEM ISOLATED FORM
FC26|ARABIC LIGATURE TAH WITH |HAH ISOLATED FORM|MEEM ISOLATED FORM
FC28|ARABIC LIGATURE |ZAH WITH MEEM ISOLATED FORM|AIN WITH JEEM ISOLATED FORM|AIN WITH MEEM ISOLATED FORM
FC2B|ARABIC LIGATURE GHAIN WITH |JEEM ISOLATED FORM|MEEM ISOLATED FORM
FC2D|ARABIC LIGATURE FEH WITH |JEEM ISOLATED FORM|HAH ISOLATED FORM|KHAH ISOLATED FORM
FC30|ARABIC LIGATURE FEH WITH |MEEM ISOLATED FORM|ALEF MAKSURA ISOLATED FORM|YEH ISOLATED FORM
FC33|ARABIC LIGATURE QAF WITH |HAH ISOLATED FORM|MEEM ISOLATED FORM|ALEF MAKSURA ISOLATED FORM
FC36|ARABIC LIGATURE |QAF WITH YEH ISOLATED FORM|KAF WITH ALEF ISOLATED FORM
FC38|ARABIC LIGATURE KAF WITH |JEEM ISOLATED FORM|HAH ISOLATED FORM|KHAH ISOLATED FORM|LAM ISOLATED FORM
FC3C|ARABIC LIGATURE KAF WITH |MEEM ISOLATED FORM|ALEF MAKSURA ISOLATED FORM|YEH ISOLATED FORM
FC3F|ARABIC LIGATURE LAM WITH |JEEM ISOLATED FORM|HAH ISOLATED FORM|KHAH ISOLATED FORM
FC42|ARABIC LIGATURE LAM WITH |MEEM ISOLATED FORM|ALEF MAKSURA ISOLATED FORM|YEH ISOLATED FORM
FC45|ARABIC LIGATURE MEEM WITH |JEEM ISOLATED FORM|HAH ISOLATED FORM|KHAH ISOLATED FORM
FC48|ARABIC LIGATURE MEEM WITH |MEEM ISOLATED FORM|ALEF MAKSURA ISOLATED FORM|YEH ISOLATED FORM
FC4B|ARABIC LIGATURE NOON WITH |JEEM ISOLATED FORM|HAH ISOLATED FORM|KHAH ISOLATED FORM
FC4E|ARABIC LIGATURE NOON WITH |MEEM ISOLATED FORM|ALEF MAKSURA ISOLATED FORM|YEH ISOLATED FORM
FC51||ARABIC LIGATURE HEH WITH JEEM ISOLATED FORM
FC52|ARABIC LIGATURE HEH WITH |MEEM ISOLATED FORM|ALEF MAKSURA ISOLATED FORM|YEH ISOLATED FORM
FC55|ARABIC LIGATURE YEH WITH |JEEM ISOLATED FORM|HAH ISOLATED FORM|KHAH ISOLATED FORM
FC58|ARABIC LIGATURE YEH WITH |MEEM ISOLATED FORM|ALEF MAKSURA ISOLATED FORM|YEH ISOLATED FORM
FC5B|ARABIC LIGATURE |THAL WITH SUPERSCRIPT ALEF ISOLATED FORM|REH WITH SUPERSCRIPT ALEF ISOLATED FORM
FC5D||ARABIC LIGATURE ALEF MAKSURA WITH SUPERSCRIPT ALEF ISOLATED FORM
FC5E|ARABIC LIGATURE SHADDA WITH |DAMMATAN ISOLATED FORM|KASRATAN ISOLATED FORM|FATHA ISOLATED FORM
FC61|ARABIC LIGATURE SHADDA WITH |DAMMA ISOLATED FORM|KASRA ISOLATED FORM|SUPERSCRIPT ALEF ISOLATED FORM
FC64|ARABIC LIGATURE YEH WITH HAMZA ABOVE WITH |REH FINAL FORM|ZAIN FINAL FORM|MEEM FINAL FORM
FC67|ARABIC LIGATURE YEH WITH HAMZA ABOVE WITH |NOON FINAL FORM|ALEF MAKSURA FINAL FORM|YEH FINAL FORM
FC6A|ARABIC LIGATURE BEH WITH |REH FINAL FORM|ZAIN FINAL FORM
FC6C|ARABIC LIGATURE BEH WITH |MEEM FINAL FORM|NOON FINAL FORM|ALEF MAKSURA FINAL FORM|YEH FINAL FORM
FC70|ARABIC LIGATURE TEH WITH |REH FINAL FORM|ZAIN FINAL FORM
FC72|ARABIC LIGATURE TEH WITH |MEEM FINAL FORM|NOON FINAL FORM|ALEF MAKSURA FINAL FORM|YEH FINAL FORM
FC76|ARABIC LIGATURE THEH WITH |REH FINAL FORM|ZAIN FINAL FORM
FC78|ARABIC LIGATURE THEH WITH |MEEM FINAL FORM|NOON FINAL FORM|ALEF MAKSURA FINAL FORM|YEH FINAL FORM
FC7C|ARABIC LIGATURE FEH WITH |ALEF MAKSURA FINAL FORM|YEH FINAL FORM
FC7E|ARABIC LIGATURE |QAF WITH ALEF MAKSURA FINAL FORM|QAF WITH YEH FINAL FORM|KAF WITH ALEF FINAL FORM
FC81|ARABIC LIGATURE KAF WITH |LAM FINAL FORM|MEEM FINAL FORM|ALEF MAKSURA FINAL FORM|YEH FINAL FORM
FC85|ARABIC LIGATURE LAM WITH |MEEM FINAL FORM|ALEF MAKSURA FINAL FORM|YEH FINAL FORM
FC88|ARABIC LIGATURE |MEEM WITH ALEF FINAL FORM|MEEM WITH MEEM FINAL FORM|NOON WITH REH FINAL FORM
FC8B|ARABIC LIGATURE NOON WITH |ZAIN FINAL FORM|MEEM FINAL FORM|NOON FINAL FORM|ALEF MAKSURA FINAL FORM
FC8F|ARABIC LIGATURE |NOON WITH YEH FINAL FORM|ALEF MAKSURA WITH SUPERSCRIPT ALEF FINAL FORM
FC91|ARABIC LIGATURE YEH WITH |REH FINAL FORM|ZAIN FINAL FORM
FC93|ARABIC LIGATURE YEH WITH |MEEM FINAL FORM|NOON FINAL FORM|ALEF MAKSURA FINAL FORM|YEH FINAL FORM
FC97|ARABIC LIGATURE YEH WITH HAMZA ABOVE WITH |JEEM INITIAL FORM|HAH INITIAL FORM
FC99|ARABIC LIGATURE YEH WITH HAMZA ABOVE WITH |KHAH INITIAL FORM|MEEM INITIAL FORM|HEH INITIAL FORM
FC9C|ARABIC LIGATURE BEH WITH |JEEM INITIAL FORM|HAH INITIAL FORM|KHAH INITIAL FORM|MEEM INITIAL FORM
FCA0|ARABIC LIGATURE |BEH WITH HEH INITIAL FORM|TEH WITH JEEM INITIAL FORM
FCA2|ARABIC LIGATURE TEH WITH |HAH INITIAL FORM|KHAH INITIAL FORM|MEEM INITIAL FORM|HEH INITIAL FORM
FCA6|ARABIC LIGATURE |THEH WITH MEEM INITIAL FORM|JEEM WITH HAH INITIAL FORM|JEEM WITH MEEM INITIAL FORM
FCA9|ARABIC LIGATURE HAH WITH |JEEM INITIAL FORM|MEEM INITIAL FORM
FCAB|ARABIC LIGATURE KHAH WITH |JEEM INITIAL FORM|MEEM INITIAL FORM
FCAD|ARABIC LIGATURE SEEN WITH |JEEM INITIAL FORM|HAH INITIAL FORM|KHAH INITIAL FORM|MEEM INITIAL FORM
FCB1|ARABIC LIGATURE SAD WITH |HAH INITIAL FORM|KHAH INITIAL FORM|MEEM INITIAL FORM
FCB4|ARABIC LIGATURE DAD WITH |JEEM INITIAL FORM|HAH INITIAL FORM|KHAH INITIAL FORM|MEEM INITIAL FORM
FCB8|ARABIC LIGATURE |TAH WITH HAH INITIAL FORM|ZAH WITH MEEM INITIAL FORM|AIN WITH JEEM INITIAL FORM
FCBB|ARABIC LIGATURE |AIN WITH MEEM INITIAL FORM|GHAIN WITH JEEM INITIAL FORM|GHAIN WITH MEEM INITIAL FORM
FCBE|ARABIC LIGATURE FEH WITH |JEEM INITIAL FORM|HAH INITIAL FORM|KHAH INITIAL FORM|MEEM INITIAL FORM
FCC2|ARABIC LIGATURE QAF WITH |HAH INITIAL FORM|MEEM INITIAL FORM
FCC4|ARABIC LIGATURE KAF WITH |JEEM INITIAL FORM|HAH INITIAL FORM|KHAH INITIAL FORM|LAM INITIAL FORM
FCC8|ARABIC LIGATURE |KAF WITH MEEM INITIAL FORM|LAM WITH JEEM INITIAL FORM
FCCA|ARABIC LIGATURE LAM WITH |HAH INITIAL FORM|KHAH INITIAL FORM|MEEM INITIAL FORM|HEH INITIAL FORM
FCCE|ARABIC LIGATURE MEEM WITH |JEEM INITIAL FORM|HAH INITIAL FORM|KHAH INITIAL FORM|MEEM INITIAL FORM
FCD2|ARABIC LIGATURE NOON WITH |JEEM INITIAL FORM|HAH INITIAL FORM|KHAH INITIAL FORM|MEEM INITIAL FORM
FCD6|ARABIC LIGATURE |NOON WITH HEH INITIAL FORM|HEH WITH JEEM INITIAL FORM|HEH WITH MEEM INITIAL FORM
FCD9|ARABIC LIGATURE |HEH WITH SUPERSCRIPT ALEF INITIAL FORM|YEH WITH JEEM INITIAL FORM
FCDB|ARABIC LIGATURE YEH WITH |HAH INITIAL FORM|KHAH INITIAL FORM|MEEM INITIAL FORM|HEH INITIAL FORM
FCDF|ARABIC LIGATURE YEH WITH HAMZA ABOVE WITH |MEEM MEDIAL FORM|HEH MEDIAL FORM
FCE1|ARABIC LIGATURE BEH WITH |MEEM MEDIAL FORM|HEH MEDIAL FORM
FCE3|ARABIC LIGATURE TEH WITH |MEEM MEDIAL FORM|HEH MEDIAL FORM
FCE5|ARABIC LIGATURE THEH WITH |MEEM MEDIAL FORM|HEH MEDIAL FORM
FCE7|ARABIC LIGATURE SEEN WITH |MEEM MEDIAL FORM|HEH MEDIAL FORM
FCE9|ARABIC LIGATURE SHEEN WITH |MEEM MEDIAL FORM|HEH MEDIAL FORM
FCEB|ARABIC LIGATURE |KAF WITH LAM MEDIAL FORM|KAF WITH MEEM MEDIAL FORM|LAM WITH MEEM MEDIAL FORM
FCEE|ARABIC LIGATURE NOON WITH |MEEM MEDIAL FORM|HEH MEDIAL FORM
FCF0|ARABIC LIGATURE YEH WITH |MEEM MEDIAL FORM|HEH MEDIAL FORM
FCF2|ARABIC LIGATURE SHADDA WITH |FATHA MEDIAL FORM|DAMMA MEDIAL FORM|KASRA MEDIAL FORM
FCF5|ARABIC LIGATURE TAH WITH |ALEF MAKSURA ISOLATED FORM|YEH ISOLATED FORM
FCF7|ARABIC LIGATURE AIN WITH |ALEF MAKSURA ISOLATED FORM|YEH ISOLATED FORM
FCF9|ARABIC LIGATURE GHAIN WITH |ALEF MAKSURA ISOLATED FORM|YEH ISOLATED FORM
FCFB|ARABIC LIGATURE SEEN WITH |ALEF MAKSURA ISOLATED FORM|YEH ISOLATED FORM
FCFD|ARABIC LIGATURE SHEEN WITH |ALEF MAKSURA ISOLATED FORM|YEH ISOLATED FORM
FCFF|ARABIC LIGATURE HAH WITH |ALEF MAKSURA ISOLATED FORM|YEH ISOLATED FORM
FD01|ARABIC LIGATURE JEEM WITH |ALEF MAKSURA ISOLATED FORM|YEH ISOLATED FORM
FD03|ARABIC LIGATURE KHAH WITH |ALEF MAKSURA ISOLATED FORM|YEH ISOLATED FORM
FD05|ARABIC LIGATURE SAD WITH |ALEF MAKSURA ISOLATED FORM|YEH ISOLATED FORM
FD07|ARABIC LIGATURE DAD WITH |ALEF MAKSURA ISOLATED FORM|YEH ISOLATED FORM
FD09|ARABIC LIGATURE SHEEN WITH |JEEM ISOLATED FORM|HAH ISOLATED FORM|KHAH ISOLATED FORM|MEEM ISOLATED FORM
FD0D|ARABIC LIGATURE S|HEEN WITH REH ISOLATED FORM|EEN WITH REH ISOLATED FORM|AD WITH REH ISOLATED FORM
FD10|ARABIC LIGATURE |DAD WITH REH ISOLATED FORM|TAH WITH ALEF MAKSURA FINAL FORM|TAH WITH YEH FINAL FORM
FD13|ARABIC LIGATURE AIN WITH |ALEF MAKSURA FINAL FORM|YEH FINAL FORM
FD15|ARABIC LIGATURE GHAIN WITH |ALEF MAKSURA FINAL FORM|YEH FINAL FORM
FD17|ARABIC LIGATURE SEEN WITH |ALEF MAKSURA FINAL FORM|YEH FINAL FORM
FD19|ARABIC LIGATURE SHEEN WITH |ALEF MAKSURA FINAL FORM|YEH FINAL FORM
FD1B|ARABIC LIGATURE HAH WITH |ALEF MAKSURA FINAL FORM|YEH FINAL FORM
FD1D|ARABIC LIGATURE JEEM WITH |ALEF MAKSURA FINAL FORM|YEH FINAL FORM
FD1F|ARABIC LIGATURE KHAH WITH |ALEF MAKSURA FINAL FORM|YEH FINAL FORM
FD21|ARABIC LIGATURE SAD WITH |ALEF MAKSURA FINAL FORM|YEH FINAL FORM
FD23|ARABIC LIGATURE |DAD WITH ALEF MAKSURA FINAL FORM|DAD WITH YEH FINAL FORM|SHEEN WITH JEEM FINAL FORM
FD26|ARABIC LIGATURE SHEEN WITH |HAH FINAL FORM|KHAH FINAL FORM|MEEM FINAL FORM|REH FINAL FORM
FD2A|ARABIC LIGATURE |SEEN WITH REH FINAL FORM|SAD WITH REH FINAL FORM|DAD WITH REH FINAL FORM
FD2D|ARABIC LIGATURE SHEEN WITH |JEEM INITIAL FORM|HAH INITIAL FORM|KHAH INITIAL FORM|MEEM INITIAL FORM
FD31|ARABIC LIGATURE |SEEN WITH HEH INITIAL FORM|SHEEN WITH HEH INITIAL FORM|TAH WITH MEEM INITIAL FORM
FD34|ARABIC LIGATURE SEEN WITH |JEEM MEDIAL FORM|HAH MEDIAL FORM|KHAH MEDIAL FORM
FD37|ARABIC LIGATURE SHEEN WITH |JEEM MEDIAL FORM|HAH MEDIAL FORM|KHAH MEDIAL FORM
FD3A|ARABIC LIGATURE |TAH WITH MEEM MEDIAL FORM|ZAH WITH MEEM MEDIAL FORM
FD3C|ARABIC LIGATURE ALEF WITH FATHATAN |FINAL FORM|ISOLATED FORM
FD3E||ORNATE LEFT PARENTHESIS|ORNATE RIGHT PARENTHESIS|ARABIC LIGATURE RAHIMAHU ALLAAH
FD41|ARABIC LIGATURE RADI ALLAAHU ANH||AA|UM|UMAA|UNNA
FD46||ARABIC LIGATURE SALLALLAAHU ALAYHI WA-AALIH
FD47|ARABIC LIGATURE ALAYHI| AS-SALAAM|M AS-SALAAM|MAA AS-SALAAM| AS-SALAATU WAS-SALAAM
FD4B|ARABIC LIGATURE |QUDDISA SIRRAH|SALLALLAHU ALAYHI WAAALIHEE WA-SALLAM|ALAYHAA AS-SALAAM
FD4E|ARABIC LIGATURE |TABAARAKA WA-TAAALAA|RAHIMAHUM ALLAAH|TEH WITH JEEM WITH MEEM INITIAL FORM
FD51|ARABIC LIGATURE TEH WITH HAH WITH |JEEM FINAL FORM|JEEM INITIAL FORM|MEEM INITIAL FORM
FD54||ARABIC LIGATURE TEH WITH KHAH WITH MEEM INITIAL FORM
FD55|ARABIC LIGATURE TEH WITH MEEM WITH |JEEM INITIAL FORM|HAH INITIAL FORM|KHAH INITIAL FORM
FD58|ARABIC LIGATURE JEEM WITH MEEM WITH HAH |FINAL FORM|INITIAL FORM
FD5A|ARABIC LIGATURE HAH WITH MEEM WITH |YEH FINAL FORM|ALEF MAKSURA FINAL FORM
FD5C||ARABIC LIGATURE SEEN WITH HAH WITH JEEM INITIAL FORM
FD5D|ARABIC LIGATURE SEEN WITH JEEM WITH |HAH INITIAL FORM|ALEF MAKSURA FINAL FORM
FD5F|ARABIC LIGATURE SEEN WITH MEEM WITH |HAH FINAL FORM|HAH INITIAL FORM|JEEM INITIAL FORM
FD62|ARABIC LIGATURE SEEN WITH MEEM WITH MEEM |FINAL FORM|INITIAL FORM
FD64|ARABIC LIGATURE SAD WITH |HAH WITH HAH FINAL FORM|HAH WITH HAH INITIAL FORM|MEEM WITH MEEM FINAL FORM
FD67|ARABIC LIGATURE SHEEN WITH HAH WITH MEEM |FINAL FORM|INITIAL FORM
FD69|ARABIC LIGATURE SHEEN WITH |JEEM WITH YEH FINAL FORM|MEEM WITH KHAH FINAL FORM
FD6B|ARABIC LIGATURE SHEEN WITH MEEM WITH |KHAH INITIAL FORM|MEEM FINAL FORM|MEEM INITIAL FORM
FD6E||ARABIC LIGATURE DAD WITH HAH WITH ALEF MAKSURA FINAL FORM
FD6F|ARABIC LIGATURE DAD WITH KHAH WITH MEEM |FINAL FORM|INITIAL FORM
FD71|ARABIC LIGATURE TAH WITH MEEM WITH |HAH FINAL FORM|HAH INITIAL FORM|MEEM INITIAL FORM|YEH FINAL FORM
FD75||ARABIC LIGATURE AIN WITH JEEM WITH MEEM FINAL FORM
FD76|ARABIC LIGATURE AIN WITH MEEM WITH |MEEM FINAL FORM|MEEM INITIAL FORM|ALEF MAKSURA FINAL FORM
FD79|ARABIC LIGATURE GHAIN WITH MEEM WITH |MEEM FINAL FORM|YEH FINAL FORM|ALEF MAKSURA FINAL FORM
FD7C|ARABIC LIGATURE FEH WITH KHAH WITH MEEM |FINAL FORM|INITIAL FORM
FD7E|ARABIC LIGATURE QAF WITH MEEM WITH |HAH FINAL FORM|MEEM FINAL FORM
FD80|ARABIC LIGATURE LAM WITH HAH WITH |MEEM FINAL FORM|YEH FINAL FORM|ALEF MAKSURA FINAL FORM
FD83|ARABIC LIGATURE LAM WITH JEEM WITH JEEM |INITIAL FORM|FINAL FORM
FD85|ARABIC LIGATURE LAM WITH KHAH WITH MEEM |FINAL FORM|INITIAL FORM
FD87|ARABIC LIGATURE LAM WITH MEEM WITH HAH |FINAL FORM|INITIAL FORM
FD89|ARABIC LIGATURE MEEM WITH HAH WITH |JEEM INITIAL FORM|MEEM INITIAL FORM|YEH FINAL FORM
FD8C|ARABIC LIGATURE MEEM WITH JEEM WITH |HAH INITIAL FORM|MEEM INITIAL FORM
FD8E|ARABIC LIGATURE MEEM WITH KHAH WITH |JEEM INITIAL FORM|MEEM INITIAL FORM
FD92||ARABIC LIGATURE MEEM WITH JEEM WITH KHAH INITIAL FORM
FD93|ARABIC LIGATURE HEH WITH MEEM WITH |JEEM INITIAL FORM|MEEM INITIAL FORM
FD95|ARABIC LIGATURE NOON WITH HAH WITH |MEEM INITIAL FORM|ALEF MAKSURA FINAL FORM
FD97|ARABIC LIGATURE NOON WITH JEEM WITH |MEEM FINAL FORM|MEEM INITIAL FORM|ALEF MAKSURA FINAL FORM
FD9A|ARABIC LIGATURE NOON WITH MEEM WITH |YEH FINAL FORM|ALEF MAKSURA FINAL FORM
FD9C|ARABIC LIGATURE YEH WITH MEEM WITH MEEM |FINAL FORM|INITIAL FORM
FD9E||ARABIC LIGATURE BEH WITH KHAH WITH YEH FINAL FORM
FD9F|ARABIC LIGATURE TEH WITH JEEM WITH |YEH FINAL FORM|ALEF MAKSURA FINAL FORM
FDA1|ARABIC LIGATURE TEH WITH KHAH WITH |YEH FINAL FORM|ALEF MAKSURA FINAL FORM
FDA3|ARABIC LIGATURE TEH WITH MEEM WITH |YEH FINAL FORM|ALEF MAKSURA FINAL FORM
FDA5||ARABIC LIGATURE JEEM WITH MEEM WITH YEH FINAL FORM
FDA6|ARABIC LIGATURE JEEM WITH |HAH WITH ALEF MAKSURA FINAL FORM|MEEM WITH ALEF MAKSURA FINAL FORM
FDA8|ARABIC LIGATURE S|EEN WITH KHAH WITH ALEF MAKSURA FINAL FORM|AD WITH HAH WITH YEH FINAL FORM
FDAA|ARABIC LIGATURE |SHEEN WITH HAH WITH YEH FINAL FORM|DAD WITH HAH WITH YEH FINAL FORM
FDAC|ARABIC LIGATURE LAM WITH |JEEM WITH YEH FINAL FORM|MEEM WITH YEH FINAL FORM
FDAE|ARABIC LIGATURE YEH WITH |HAH WITH YEH FINAL FORM|JEEM WITH YEH FINAL FORM|MEEM WITH YEH FINAL FORM
FDB1|ARABIC LIGATURE |MEEM WITH MEEM WITH YEH FINAL FORM|QAF WITH MEEM WITH YEH FINAL FORM
FDB3|ARABIC LIGATURE |NOON WITH HAH WITH YEH FINAL FORM|QAF WITH MEEM WITH HAH INITIAL FORM
FDB5|ARABIC LIGATURE |LAM WITH HAH WITH MEEM INITIAL FORM|AIN WITH MEEM WITH YEH FINAL FORM
FDB7|ARABIC LIGATURE |KAF WITH MEEM WITH YEH FINAL FORM|NOON WITH JEEM WITH HAH INITIAL FORM
FDB9|ARABIC LIGATURE |MEEM WITH KHAH WITH YEH FINAL FORM|LAM WITH JEEM WITH MEEM INITIAL FORM
FDBB|ARABIC LIGATURE |KAF WITH MEEM WITH MEEM FINAL FORM|LAM WITH JEEM WITH MEEM FINAL FORM
FDBD|ARABIC LIGATURE |NOON WITH JEEM WITH HAH FINAL FORM|JEEM WITH HAH WITH YEH FINAL FORM
FDBF|ARABIC LIGATURE |HAH WITH JEEM WITH YEH FINAL FORM|MEEM WITH JEEM WITH YEH FINAL FORM
FDC1|ARABIC LIGATURE |FEH WITH MEEM WITH YEH FINAL FORM|BEH WITH HAH WITH YEH FINAL FORM
FDC3|ARABIC LIGATURE |KAF WITH MEEM WITH MEEM INITIAL FORM|AIN WITH JEEM WITH MEEM INITIAL FORM
FDC5|ARABIC LIGATURE S|AD WITH MEEM WITH MEEM INITIAL FORM|EEN WITH KHAH WITH YEH FINAL FORM
FDC7||ARABIC LIGATURE NOON WITH JEEM WITH YEH FINAL FORM
FDCF||ARABIC LIGATURE SALAAMUHU ALAYNAA
FDF0||ARABIC LIGATURE SALLA USED AS KORANIC STOP SIGN ISOLATED FORM
FDF1|ARABIC LIGATURE |QALA USED AS KORANIC STOP SIGN ISOLATED FORM|ALLAH ISOLATED FORM|AKBAR ISOLATED FORM
FDF4|ARABIC LIGATURE |MOHAMMAD ISOLATED FORM|SALAM ISOLATED FORM|RASOUL ISOLATED FORM|ALAYHE ISOLATED FORM
FDF8|ARABIC LIGATURE |WASALLAM ISOLATED FORM|SALLA ISOLATED FORM|SALLALLAHOU ALAYHE WASALLAM|JALLAJALALOUHOU
FDFC||RIAL SIGN
FDFD|ARABIC LIGATURE |BISMILLAH AR-RAHMAN AR-RAHEEM|SUBHAANAHU WA TAAALAA|AZZA WA JALL
FE00|VARIATION SELECTOR-|1|2|3|4|5|6|7|8|9|10|11|12|13|14|15|16
FE10|PRESENTATION FORM FOR VERTICAL |COMMA|IDEOGRAPHIC COMMA|IDEOGRAPHIC FULL STOP|COLON
FE14|PRESENTATION FORM FOR VERTICAL |SEMICOLON|EXCLAMATION MARK|QUESTION MARK|LEFT WHITE LENTICULAR BRACKET
FE18|PRESENTATION FORM FOR VERTICAL |RIGHT WHITE LENTICULAR BRAKCET|HORIZONTAL ELLIPSIS
FE20|COMBINING LIGATURE |LEFT HALF|RIGHT HALF
FE22|COMBINING DOUBLE TILDE |LEFT HALF|RIGHT HALF
FE24|COMBINING |MACRON LEFT HALF|MACRON RIGHT HALF|CONJOINING MACRON|LIGATURE LEFT HALF BELOW
FE28|COMBINING |LIGATURE RIGHT HALF BELOW|TILDE LEFT HALF BELOW|TILDE RIGHT HALF BELOW
FE2B|COMBINING |MACRON LEFT HALF BELOW|MACRON RIGHT HALF BELOW|CONJOINING MACRON BELOW
FE2E|COMBINING CYRILLIC TITLO |LEFT HALF|RIGHT HALF
FE30|PRESENTATION FORM FOR VERTICAL |TWO DOT LEADER|EM DASH|EN DASH|LOW LINE|WAVY LOW LINE|LEFT PARENTHESIS
FE36|PRESENTATION FORM FOR VERTICAL |RIGHT PARENTHESIS|LEFT CURLY BRACKET|RIGHT CURLY BRACKET
FE39|PRESENTATION FORM FOR VERTICAL |LEFT TORTOISE SHELL BRACKET|RIGHT TORTOISE SHELL BRACKET
FE3B|PRESENTATION FORM FOR VERTICAL |LEFT BLACK LENTICULAR BRACKET|RIGHT BLACK LENTICULAR BRACKET
FE3D|PRESENTATION FORM FOR VERTICAL |LEFT DOUBLE ANGLE BRACKET|RIGHT DOUBLE ANGLE BRACKET|LEFT ANGLE BRACKET
FE40|PRESENTATION FORM FOR VERTICAL |RIGHT ANGLE BRACKET|LEFT CORNER BRACKET|RIGHT CORNER BRACKET
FE43|PRESENTATION FORM FOR VERTICAL |LEFT WHITE CORNER BRACKET|RIGHT WHITE CORNER BRACKET
FE45||SESAME DOT|WHITE SESAME DOT
FE47|PRESENTATION FORM FOR VERTICAL |LEFT SQUARE BRACKET|RIGHT SQUARE BRACKET
FE49||DASHED OVERLINE|CENTRELINE OVERLINE|WAVY OVERLINE
FE4C||DOUBLE WAVY OVERLINE|DASHED LOW LINE|CENTRELINE LOW LINE|WAVY LOW LINE
FE50|SMALL |COMMA|IDEOGRAPHIC COMMA|FULL STOP
FE54|SMALL |SEMICOLON|COLON
FE56|SMALL |QUESTION MARK|EXCLAMATION MARK|EM DASH|LEFT PARENTHESIS|RIGHT PARENTHESIS|LEFT CURLY BRACKET
FE5C|SMALL |RIGHT CURLY BRACKET|LEFT TORTOISE SHELL BRACKET|RIGHT TORTOISE SHELL BRACKET|NUMBER SIGN
FE60|SMALL |AMPERSAND|ASTERISK|PLUS SIGN|HYPHEN-MINUS|LESS-THAN SIGN|GREATER-THAN SIGN|EQUALS SIGN
FE68|SMALL |REVERSE SOLIDUS|DOLLAR SIGN|PERCENT SIGN|COMMERCIAL AT
FE70||ARABIC FATHATAN ISOLATED FORM
FE71|ARABIC |TATWEEL WITH FATHATAN ABOVE|DAMMATAN ISOLATED FORM|TAIL FRAGMENT|KASRATAN ISOLATED FORM
FE76|ARABIC |FATHA ISOLATED FORM|FATHA MEDIAL FORM|DAMMA ISOLATED FORM
FE79|ARABIC |DAMMA MEDIAL FORM|KASRA ISOLATED FORM|KASRA MEDIAL FORM|SHADDA ISOLATED FORM
FE7D|ARABIC |SHADDA MEDIAL FORM|SUKUN ISOLATED FORM|SUKUN MEDIAL FORM|LETTER HAMZA ISOLATED FORM
FE81|ARABIC LETTER ALEF WITH MADDA ABOVE |ISOLATED FORM|FINAL FORM
FE83|ARABIC LETTER ALEF WITH HAMZA ABOVE |ISOLATED FORM|FINAL FORM
FE85|ARABIC LETTER WAW WITH HAMZA ABOVE |ISOLATED FORM|FINAL FORM
FE87|ARABIC LETTER ALEF WITH HAMZA BELOW |ISOLATED FORM|FINAL FORM
FE89|ARABIC LETTER YEH WITH HAMZA ABOVE |ISOLATED FORM|FINAL FORM|INITIAL FORM|MEDIAL FORM
FE8D|ARABIC LETTER ALEF |ISOLATED FORM|FINAL FORM
FE8F|ARABIC LETTER BEH |ISOLATED FORM|FINAL FORM|INITIAL FORM|MEDIAL FORM
FE93|ARABIC LETTER TEH |MARBUTA ISOLATED FORM|MARBUTA FINAL FORM|ISOLATED FORM|FINAL FORM|INITIAL FORM
FE98|ARABIC LETTER T|EH MEDIAL FORM|HEH ISOLATED FORM|HEH FINAL FORM|HEH INITIAL FORM|HEH MEDIAL FORM
FE9D|ARABIC LETTER JEEM |ISOLATED FORM|FINAL FORM|INITIAL FORM|MEDIAL FORM
FEA1|ARABIC LETTER HAH |ISOLATED FORM|FINAL FORM|INITIAL FORM|MEDIAL FORM
FEA5|ARABIC LETTER KHAH |ISOLATED FORM|FINAL FORM|INITIAL FORM|MEDIAL FORM
FEA9|ARABIC LETTER |DAL ISOLATED FORM|DAL FINAL FORM|THAL ISOLATED FORM
FEAC|ARABIC LETTER |THAL FINAL FORM|REH ISOLATED FORM|REH FINAL FORM|ZAIN ISOLATED FORM|ZAIN FINAL FORM
FEB1|ARABIC LETTER SEEN |ISOLATED FORM|FINAL FORM|INITIAL FORM|MEDIAL FORM
FEB5|ARABIC LETTER SHEEN |ISOLATED FORM|FINAL FORM|INITIAL FORM|MEDIAL FORM
FEB9|ARABIC LETTER SAD |ISOLATED FORM|FINAL FORM|INITIAL FORM|MEDIAL FORM
FEBD|ARABIC LETTER DAD |ISOLATED FORM|FINAL FORM|INITIAL FORM|MEDIAL FORM
FEC1|ARABIC LETTER TAH |ISOLATED FORM|FINAL FORM|INITIAL FORM|MEDIAL FORM
FEC5|ARABIC LETTER ZAH |ISOLATED FORM|FINAL FORM|INITIAL FORM|MEDIAL FORM
FEC9|ARABIC LETTER AIN |ISOLATED FORM|FINAL FORM|INITIAL FORM|MEDIAL FORM
FECD|ARABIC LETTER GHAIN |ISOLATED FORM|FINAL FORM|INITIAL FORM|MEDIAL FORM
FED1|ARABIC LETTER FEH |ISOLATED FORM|FINAL FORM|INITIAL FORM|MEDIAL FORM
FED5|ARABIC LETTER QAF |ISOLATED FORM|FINAL FORM|INITIAL FORM|MEDIAL FORM
FED9|ARABIC LETTER KAF |ISOLATED FORM|FINAL FORM|INITIAL FORM|MEDIAL FORM
FEDD|ARABIC LETTER LAM |ISOLATED FORM|FINAL FORM|INITIAL FORM|MEDIAL FORM
FEE1|ARABIC LETTER MEEM |ISOLATED FORM|FINAL FORM|INITIAL FORM|MEDIAL FORM
FEE5|ARABIC LETTER NOON |ISOLATED FORM|FINAL FORM|INITIAL FORM|MEDIAL FORM
FEE9|ARABIC LETTER HEH |ISOLATED FORM|FINAL FORM|INITIAL FORM|MEDIAL FORM
FEED|ARABIC LETTER |WAW ISOLATED FORM|WAW FINAL FORM|ALEF MAKSURA ISOLATED FORM|ALEF MAKSURA FINAL FORM
FEF1|ARABIC LETTER YEH |ISOLATED FORM|FINAL FORM|INITIAL FORM|MEDIAL FORM
FEF5|ARABIC LIGATURE LAM WITH ALEF WITH MADDA ABOVE |ISOLATED FORM|FINAL FORM
FEF7|ARABIC LIGATURE LAM WITH ALEF WITH HAMZA |ABOVE ISOLATED FORM|ABOVE FINAL FORM|BELOW ISOLATED FORM
FEFA|ARABIC LIGATURE LAM WITH ALEF |WITH HAMZA BELOW FINAL FORM|ISOLATED FORM|FINAL FORM
FEFF||ZERO WIDTH NO-BREAK SPACE
FF01|FULLWIDTH |EXCLAMATION MARK|QUOTATION MARK|NUMBER SIGN|DOLLAR SIGN|PERCENT SIGN|AMPERSAND|APOSTROPHE
FF08|FULLWIDTH |LEFT PARENTHESIS|RIGHT PARENTHESIS|ASTERISK|PLUS SIGN|COMMA|HYPHEN-MINUS|FULL STOP|SOLIDUS
FF10|FULLWIDTH DIGIT |ZERO|ONE|TWO|THREE|FOUR|FIVE|SIX|SEVEN|EIGHT|NINE
FF1A|FULLWIDTH |COLON|SEMICOLON|LESS-THAN SIGN|EQUALS SIGN|GREATER-THAN SIGN|QUESTION MARK|COMMERCIAL AT
FF21|FULLWIDTH LATIN CAPITAL LETTER |A|B|C|D|E|F|G|H|I|J|K|L|M|N|O|P|Q|R|S|T|U|V|W|X|Y|Z
FF3B||FULLWIDTH LEFT SQUARE BRACKET
FF3C|FULLWIDTH |REVERSE SOLIDUS|RIGHT SQUARE BRACKET|CIRCUMFLEX ACCENT|LOW LINE|GRAVE ACCENT
FF41|FULLWIDTH LATIN SMALL LETTER |A|B|C|D|E|F|G|H|I|J|K|L|M|N|O|P|Q|R|S|T|U|V|W|X|Y|Z
FF5B||FULLWIDTH LEFT CURLY BRACKET
FF5C|FULLWIDTH |VERTICAL LINE|RIGHT CURLY BRACKET|TILDE|LEFT WHITE PARENTHESIS|RIGHT WHITE PARENTHESIS
FF61|HALFWIDTH |IDEOGRAPHIC FULL STOP|LEFT CORNER BRACKET|RIGHT CORNER BRACKET|IDEOGRAPHIC COMMA
FF65|HALFWIDTH KATAKANA |MIDDLE DOT|LETTER WO
FF67|HALFWIDTH KATAKANA LETTER SMALL |A|I|U|E|O|YA|YU|YO|TU
FF70||HALFWIDTH KATAKANA-HIRAGANA PROLONGED SOUND MARK
FF71|HALFWIDTH KATAKANA LETTER |A|I|U|E|O|KA|KI|KU|KE|KO|SA|SI|SU|SE|SO|TA|TI|TU|TE
FF84|HALFWIDTH KATAKANA LETTER |TO|NA|NI|NU|NE|NO|HA|HI|HU|HE|HO|MA|MI|MU|ME|MO|YA|YU|YO|RA|RI|RU|RE|RO|WA|N
FF9E|HALFWIDTH KATAKANA |VOICED SOUND MARK|SEMI-VOICED SOUND MARK
FFA0|HALFWIDTH HANGUL |FILLER|LETTER KIYEOK
FFA2|HALFWIDTH HANGUL LETTER |SSANGKIYEOK|KIYEOK-SIOS|NIEUN|NIEUN-CIEUC|NIEUN-HIEUH|TIKEUT|SSANGTIKEUT|RIEUL
FFAA|HALFWIDTH HANGUL LETTER RIEUL-|KIYEOK|MIEUM|PIEUP|SIOS|THIEUTH|PHIEUPH|HIEUH
FFB1|HALFWIDTH HANGUL LETTER |MIEUM|PIEUP|SSANGPIEUP|PIEUP-SIOS
FFB5|HALFWIDTH HANGUL LETTER |SIOS|SSANGSIOS|IEUNG|CIEUC|SSANGCIEUC|CHIEUCH|KHIEUKH|THIEUTH|PHIEUPH|HIEUH
FFC2|HALFWIDTH HANGUL LETTER |A|AE|YA|YAE|EO|E
FFCA|HALFWIDTH HANGUL LETTER |YEO|YE|O|WA|WAE|OE
FFD2|HALFWIDTH HANGUL LETTER |YO|U|WEO|WE|WI|YU
FFDA|HALFWIDTH HANGUL LETTER |EU|YI|I
FFE0|FULLWIDTH |CENT SIGN|POUND SIGN|NOT SIGN|MACRON|BROKEN BAR|YEN SIGN|WON SIGN
FFE8||HALFWIDTH FORMS LIGHT VERTICAL
FFE9|HALFWIDTH |LEFTWARDS ARROW|UPWARDS ARROW|RIGHTWARDS ARROW|DOWNWARDS ARROW|BLACK SQUARE|WHITE CIRCLE
FFF9|INTERLINEAR ANNOTATION |ANCHOR|SEPARATOR|TERMINATOR
FFFC||OBJECT REPLACEMENT CHARACTER|REPLACEMENT CHARACTER"

end GraphGateway.Text.CharacterName
