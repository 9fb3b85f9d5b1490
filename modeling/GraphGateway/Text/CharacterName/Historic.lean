/-!
# Character names, U+10000 to U+1CFFF

Each line names consecutive code points: the first of them, what their names begin with, and how each
name goes on.
-/

namespace GraphGateway.Text.CharacterName

/-- The names of the characters from U+10000 to U+1CFFF. -/
def historic : String :=
"10000|LINEAR B SYLLABLE B0|08 A|38 E|28 I|61 O|10 U|01 DA|45 DE|07 DI|14 DO|51 DU|57 JA|46 JE
1000D|LINEAR B SYLLABLE B0|36 JO|65 JU|77 KA|44 KE|67 KI|70 KO|81 KU|80 MA|13 ME|73 MI|15 MO|23 MU|06 NA
1001A|LINEAR B SYLLABLE B0|24 NE|30 NI|52 NO|55 NU|03 PA|72 PE|39 PI|11 PO|50 PU|16 QA|78 QE|21 QI|32 QO
10028|LINEAR B SYLLABLE B0|60 RA|27 RE|53 RI|02 RO|26 RU|31 SA
1002E|LINEAR B SYLLABLE B0|09 SE|41 SI|12 SO|58 SU|59 TA|04 TE|37 TI|05 TO|69 TU|54 WA|75 WE|40 WI|42 WO
1003C|LINEAR B SYLLABLE B0|17 ZA|74 ZE
1003F|LINEAR B SYLLABLE B0|20 ZO|25 A2|43 A3
10042|LINEAR B SYLLABLE B0|85 AU|71 DWE|90 DWO|48 NWA|29 PU2|62 PTE|76 RA2|33 RA3|68 RO2|66 TA2|87 TWE|91 TWO
10050|LINEAR B SYMBOL B0|18|19|22|34|47|49|56|63|64|79|82|83|86|89
10080|LINEAR B IDEOGRAM B10|0 MAN|2 WOMAN|4 DEER|5 EQUID|5F MARE
10085|LINEAR B IDEOGRAM B10|5M STALLION|6F EWE|6M RAM|7F SHE-GOAT|7M HE-GOAT|8F SOW|8M BOAR|9F COW|9M BULL
1008E|LINEAR B IDEOGRAM B12|0 WHEAT|1 BARLEY|2 OLIVE|3 SPICE|5 CYPERUS
10093|LINEAR B MONOGRAM B12|7 KAPO|8 KANAKO
10095|LINEAR B IDEOGRAM B13|0 OIL|1 WINE|2
10098|LINEAR B MONOGRAM B13|3 AREPA|5 MERI
1009A|LINEAR B IDEOGRAM B1|40 BRONZE|41 GOLD|42|45 WOOL|46|50|51 HORN|52|53|54
100A4||LINEAR B MONOGRAM B156 TURO2
100A5|LINEAR B IDEOGRAM B1|57|58|59 CLOTH|60|61|62 GARMENT|63 ARMOUR|64|65|66
100AF|LINEAR B IDEOGRAM B1|67|68|69|70|71|72|73 MONTH|74|76 TREE|77|78|79|80|81|82|83|84|85|89|90|91 HELMET
100C4|LINEAR B IDEOGRAM B2|20 FOOTSTOOL|25 BATHTUB|30 SPEAR|31 ARROW|32|33 SWORD|34|36
100CC|LINEAR B IDEOGRAM B24|0 WHEELED CHARIOT|1 CHARIOT|2 CHARIOT FRAME|3 WHEEL|5|6
100D2||LINEAR B MONOGRAM B247 DIPTE
100D3|LINEAR B IDEOGRAM B2|48|49|51|52|53|54 DART|55|56|57|58|59
100DE|LINEAR B IDEOGRAM VESSEL B|155|200|201|202|203|204|205|206|207|208
100E8|LINEAR B IDEOGRAM VESSEL B|209|210|211|212|213|214|215|216|217|218|219|221|222|226|227|228|229|250|305
10100|AEGEAN WORD SEPARATOR |LINE|DOT
10102||AEGEAN CHECK MARK
10107|AEGEAN NUMBER |ONE|TWO|THREE|FOUR|FIVE|SIX|SEVEN|EIGHT|NINE|TEN|TWENTY|THIRTY|FORTY
10114|AEGEAN NUMBER |FIFTY|SIXTY|SEVENTY|EIGHTY|NINETY|ONE HUNDRED|TWO HUNDRED|THREE HUNDRED|FOUR HUNDRED
1011D|AEGEAN NUMBER |FIVE HUNDRED|SIX HUNDRED|SEVEN HUNDRED|EIGHT HUNDRED|NINE HUNDRED|ONE THOUSAND
10123|AEGEAN NUMBER |TWO THOUSAND|THREE THOUSAND|FOUR THOUSAND|FIVE THOUSAND|SIX THOUSAND|SEVEN THOUSAND
10129|AEGEAN NUMBER |EIGHT THOUSAND|NINE THOUSAND|TEN THOUSAND|TWENTY THOUSAND|THIRTY THOUSAND|FORTY THOUSAND
1012F|AEGEAN NUMBER |FIFTY THOUSAND|SIXTY THOUSAND|SEVENTY THOUSAND|EIGHTY THOUSAND|NINETY THOUSAND
10137|AEGEAN WEIGHT |BASE UNIT|FIRST SUBUNIT|SECOND SUBUNIT|THIRD SUBUNIT|FOURTH SUBUNIT
1013C|AEGEAN |DRY MEASURE FIRST SUBUNIT|LIQUID MEASURE FIRST SUBUNIT
1013E|AEGEAN MEASURE |SECOND SUBUNIT|THIRD SUBUNIT
10140|GREEK ACROPHONIC ATTIC |ONE QUARTER|ONE HALF|ONE DRACHMA|FIVE|FIFTY|FIVE HUNDRED|FIVE THOUSAND
10147|GREEK ACROPHONIC ATTIC |FIFTY THOUSAND|FIVE TALENTS|TEN TALENTS|FIFTY TALENTS|ONE HUNDRED TALENTS
1014C|GREEK ACROPHONIC ATTIC |FIVE HUNDRED TALENTS|ONE THOUSAND TALENTS|FIVE THOUSAND TALENTS
1014F|GREEK ACROPHONIC ATTIC |FIVE STATERS|TEN STATERS|FIFTY STATERS|ONE HUNDRED STATERS|FIVE HUNDRED STATERS
10154|GREEK ACROPHONIC ATTIC |ONE THOUSAND STATERS|TEN THOUSAND STATERS|FIFTY THOUSAND STATERS|TEN MNAS
10158|GREEK ACROPHONIC |HERAEUM ONE PLETHRON|THESPIAN ONE|HERMIONIAN ONE
1015B|GREEK ACROPHONIC |EPIDAUREAN TWO|THESPIAN TWO|CYRENAIC TWO DRACHMAS|EPIDAUREAN TWO DRACHMAS
1015F|GREEK ACROPHONIC TROEZENIAN |FIVE|TEN|TEN ALTERNATE FORM
10162|GREEK ACROPHONIC |HERMIONIAN TEN|MESSENIAN TEN|THESPIAN TEN|THESPIAN THIRTY|TROEZENIAN FIFTY
10167|GREEK ACROPHONIC |TROEZENIAN FIFTY ALTERNATE FORM|HERMIONIAN FIFTY|THESPIAN FIFTY|THESPIAN ONE HUNDRED
1016B|GREEK ACROPHONIC |THESPIAN THREE HUNDRED|EPIDAUREAN FIVE HUNDRED|TROEZENIAN FIVE HUNDRED
1016E|GREEK ACROPHONIC |THESPIAN FIVE HUNDRED|CARYSTIAN FIVE HUNDRED|NAXIAN FIVE HUNDRED
10171|GREEK ACROPHONIC |THESPIAN ONE THOUSAND|THESPIAN FIVE THOUSAND|DELPHIC FIVE MNAS|STRATIAN FIFTY MNAS
10175|GREEK ONE HALF SIGN|| ALTERNATE FORM
10177|GREEK |TWO THIRDS SIGN|THREE QUARTERS SIGN|YEAR SIGN|TALENT SIGN
1017B|GREEK |DRACHMA SIGN|OBOL SIGN|TWO OBOLS SIGN|THREE OBOLS SIGN|FOUR OBOLS SIGN|FIVE OBOLS SIGN
10181|GREEK |METRETES SIGN|KYATHOS BASE SIGN|LITRA SIGN|OUNKIA SIGN|XESTES SIGN|ARTABE SIGN|AROURA SIGN
10188|GREEK |GRAMMA SIGN|TRYBLION BASE SIGN|ZERO SIGN|ONE QUARTER SIGN|SINUSOID SIGN|INDICTION SIGN
1018E||NOMISMA SIGN
10190|ROMAN |SEXTANS SIGN|UNCIA SIGN|SEMUNCIA SIGN|SEXTULA SIGN|DIMIDIA SEXTULA SIGN
10195|ROMAN |SILIQUA SIGN|DENARIUS SIGN|QUINARIUS SIGN|SESTERTIUS SIGN|DUPONDIUS SIGN|AS SIGN|CENTURIAL SIGN
1019C||ASCIA SYMBOL
101A0||GREEK SYMBOL TAU RHO
101D0|PHAISTOS DISC SIGN |PEDESTRIAN|PLUMED HEAD|TATTOOED HEAD
101D3|PHAISTOS DISC SIGN |CAPTIVE|CHILD|WOMAN|HELMET|GAUNTLET|TIARA|ARROW|BOW|SHIELD|CLUB|MANACLES
101DE|PHAISTOS DISC SIGN |MATTOCK|SAW|LID|BOOMERANG|CARPENTRY PLANE|DOLIUM|COMB|SLING|COLUMN|BEEHIVE|SHIP
101E9|PHAISTOS DISC SIGN |HORN|HIDE|BULLS LEG|CAT|RAM|EAGLE|DOVE|TUNNY|BEE|PLANE TREE|VINE|PAPYRUS|ROSETTE
101F6|PHAISTOS DISC SIGN |LILY|OX BACK|FLUTE|GRATER|STRAINER|SMALL AXE|WAVY BAND|COMBINING OBLIQUE STROKE
10280|LYCIAN LETTER |A|E|B|BH|G|D|I|W|Z|TH|J|K|Q|L|M|N|MM|NN|U|P|KK|R|S|T|TT|AN|EN|H|X
102A0|CARIAN LETTER |A|P2|D|L|UUU|R|LD|A2|Q|B|M|O|D2|T|SH|SH2|S|C-18|U|NN|X|N|TT2
102B7|CARIAN LETTER |P|SS|I|E|UUUU|K|K2|ND|UU|G|G2|ST|ST2|NG|II|C-39|TT|UUU2|RR|MB|MB2|MB3|MB4|LD2|E2|UUU3
102E0||COPTIC EPACT THOUSANDS MARK
102E1|COPTIC EPACT DIGIT |ONE|TWO|THREE|FOUR|FIVE|SIX|SEVEN|EIGHT|NINE
102EA|COPTIC EPACT NUMBER T|EN|WENTY|HIRTY
102ED|COPTIC EPACT NUMBER |FORTY|FIFTY|SIXTY|SEVENTY|EIGHTY|NINETY|ONE HUNDRED|TWO HUNDRED|THREE HUNDRED
102F6|COPTIC EPACT NUMBER |FOUR HUNDRED|FIVE HUNDRED|SIX HUNDRED|SEVEN HUNDRED|EIGHT HUNDRED|NINE HUNDRED
10300|OLD ITALIC LETTER |A|BE|KE|DE|E|VE
10306|OLD ITALIC LETTER |ZE|HE|THE|I|KA|EL|EM|EN|ESH|O|PE|SHE|KU|ER|ES|TE|U|EKS|PHE|KHE|EF|ERS|CHE|II|UU|ESS
10320|OLD ITALIC NUMERAL |ONE|FIVE|TEN|FIFTY
1032D|OLD ITALIC LETTER |YE|NORTHERN TSE|SOUTHERN TSE
10330|GOTHIC LETTER |AHSA|BAIRKAN|GIBA|DAGS|AIHVUS|QAIRTHRA|IUJA|HAGL|THIUTH|EIS|KUSMA|LAGUS|MANNA|NAUTHS
1033E|GOTHIC LETTER |JER|URUS|PAIRTHRA|NINETY|RAIDA|SAUIL|TEIWS|WINJA|FAIHU|IGGWS|HWAIR|OTHAL|NINE HUNDRED
10350|OLD PERMIC LETTER |AN|BUR|GAI|DOI|E|ZHOI|DZHOI|ZATA|DZITA|I|KOKE|LEI|MENOE|NENOE|VOOI|PEEI|REI
10361|OLD PERMIC LETTER |SII|TAI|U|CHERY|SHOOI|SHCHOOI|YRY|YERU|O|OO|EF|HA|TSIU|VER|YER|YERI|YAT|IE|YU|YA|IA
10376|COMBINING OLD PERMIC LETTER |AN|DOI|ZATA|NENOE|SII
10380|UGARITIC LETTER |ALPA|BETA|GAMLA|KHA|DELTA|HO|WO|ZETA|HOTA|TET|YOD
1038B|UGARITIC LETTER |KAF|SHIN|LAMDA|MEM|DHAL|NUN|ZU|SAMKA|AIN|PU|SADE|QOPA|RASHA|THANNA|GHAIN|TO|I|U|SSU
1039F||UGARITIC WORD DIVIDER
103A0|OLD PERSIAN SIGN |A|I|U|KA|KU|GA|GU|XA|CA
103A9|OLD PERSIAN SIGN |JA|JI|TA|TU|DA|DI|DU|THA|PA|BA|FA|NA|NU|MA|MI|MU|YA|VA|VI|RA|RU|LA|SA|ZA|SHA|SSA|HA
103C8|OLD PERSIAN SIGN |AURAMAZDAA|AURAMAZDAA-2|AURAMAZDAAHA|XSHAAYATHIYA|DAHYAAUSH|DAHYAAUSH-2|BAGA|BUUMISH
103D0||OLD PERSIAN WORD DIVIDER
103D1|OLD PERSIAN NUMBER |ONE|TWO|TEN|TWENTY|HUNDRED
10400|DESERET CAPITAL LETTER LONG |I|E|A|AH|O|OO
10406|DESERET CAPITAL LETTER |SHORT I|SHORT E|SHORT A|SHORT AH|SHORT O|SHORT OO|AY|OW|WU|YEE|H|PEE|BEE
10413|DESERET CAPITAL LETTER |TEE|DEE|CHEE|JEE|KAY|GAY|EF|VEE|ETH|THEE|ES|ZEE|ESH|ZHEE|ER|EL|EM|EN|ENG|OI|EW
10428|DESERET SMALL LETTER LONG |I|E|A|AH|O|OO
1042E|DESERET SMALL LETTER SHORT |I|E|A|AH|O|OO
10434|DESERET SMALL LETTER |AY|OW|WU|YEE|H|PEE|BEE
1043B|DESERET SMALL LETTER |TEE|DEE|CHEE|JEE|KAY|GAY|EF|VEE|ETH|THEE|ES|ZEE|ESH|ZHEE|ER|EL|EM|EN|ENG|OI|EW
10450|SHAVIAN LETTER |PEEP|TOT|KICK|FEE|THIGH|SO|SURE|CHURCH
10458|SHAVIAN LETTER |YEA|HUNG|BIB|DEAD|GAG|VOW|THEY|ZOO|MEASURE|JUDGE|WOE|HA-HA|LOLL|MIME|IF|EGG|ASH|ADO|ON
1046B|SHAVIAN LETTER |WOOL|OUT|AH|ROAR|NUN|EAT|AGE|ICE|UP|OAK|OOZE|OIL|AWE|ARE|OR|AIR|ERR|ARRAY|EAR|IAN|YEW
10480|OSMANYA LETTER |ALEF|BA|TA|JA|XA|KHA
10486|OSMANYA LETTER |DEEL|RA|SA|SHIIN|DHA|CAYN|GA|FA|QAAF|KAAF|LAAN|MIIN|NUUN|WAW|HA|YA|A|E|I|O|U|AA|EE|OO
104A0|OSMANYA DIGIT |ZERO|ONE|TWO|THREE|FOUR|FIVE|SIX|SEVEN|EIGHT|NINE
104B0|OSAGE CAPITAL LETTER |A|AI|AIN|AH|BRA|CHA|EHCHA|E|EIN|HA|HYA|I|KA|EHKA
104BE|OSAGE CAPITAL LETTER |KYA|LA|MA|NA|O|OIN|PA|EHPA|SA|SHA|TA|EHTA|TSA|EHTSA|TSHA|DHA|U|WA|KHA|GHA|ZA|ZHA
104D8|OSAGE SMALL LETTER |A|AI|AIN|AH|BRA|CHA|EHCHA|E|EIN|HA|HYA|I|KA|EHKA
104E6|OSAGE SMALL LETTER |KYA|LA|MA|NA|O|OIN|PA|EHPA|SA|SHA|TA|EHTA|TSA|EHTSA|TSHA|DHA|U|WA|KHA|GHA|ZA|ZHA
10500|ELBASAN LETTER |A|BE|CE|CHE|DE|NDE|DHE|EI|E|FE|GE|GJE|HE|I
1050E|ELBASAN LETTER |JE|KE|LE|LLE|ME|NE|NA|NJE|O|PE|QE|RE|RRE|SE|SHE|TE|THE|U|VE|XE|Y|ZE|ZHE|GHE|GHAMMA|KHE
10530|CAUCASIAN ALBANIAN LETTER |ALT|BET|GIM
10533|CAUCASIAN ALBANIAN LETTER |DAT|EB|ZARL|EYN|ZHIL|TAS|CHA|YOWD|ZHA|IRB|SHA|LAN|INYA|XEYN|DYAN|CAR|JHOX
10544|CAUCASIAN ALBANIAN LETTER |KAR|LYIT|HEYT|QAY|AOR|CHOY|CHI|CYAY|MAQ|QAR|NOWC|DZYAY|SHAK|JAYN|ON|TYAY
10554|CAUCASIAN ALBANIAN LETTER |FAM|DZAY|CHAT|PEN|GHEYS|RAT|SEYK|VEYZ|TIWR|SHOY|IWN|CYAW|CAYN|YAYD|PIWR|KIW
1056F||CAUCASIAN ALBANIAN CITATION MARK
10570|VITHKUQI CAPITAL LETTER |A|BBE|BE|CE|CHE|DE|DHE|EI|E|FE|GA
1057C|VITHKUQI CAPITAL LETTER |HA|HHA|I|IJE|JE|KA|LA|LLA|ME|NE|NJE|O|PE|QA|RE
1058C|VITHKUQI CAPITAL LETTER |SE|SHE|TE|THE|U|VE|XE
10594|VITHKUQI CAPITAL LETTER |Y|ZE
10597|VITHKUQI SMALL LETTER |A|BBE|BE|CE|CHE|DE|DHE|EI|E|FE|GA
105A3|VITHKUQI SMALL LETTER |HA|HHA|I|IJE|JE|KA|LA|LLA|ME|NE|NJE|O|PE|QA|RE
105B3|VITHKUQI SMALL LETTER |SE|SHE|TE|THE|U|VE|XE
105BB|VITHKUQI SMALL LETTER |Y|ZE
10600|LINEAR A SIGN AB0|01|02|03|04|05|06|07|08|09|10|11|13|16|17|20|21|21F|21M|22|22F|22M|23|23M|24|26|27|28
1061B||LINEAR A SIGN A028B
1061C|LINEAR A SIGN AB0|29|30|31|34|37|38|39|40|41|44|45|46|47|48|49
1062B|LINEAR A SIGN AB0|50|51|53|54|55|56|57|58|59|60|61|65|66|67|69|70|73|74|76|77|78|79|80|81|82|85|86|87
10647|LINEAR A SIGN A|100-102|B118|B120|120B|B122|B123|B131A|B131B|131C|B164|B171|B180|B188|B191
10655|LINEAR A SIGN A3|01|02|03|04|05|06|07|08|09A|09B|09C|10|11|12|13A|13B|13C
10666|LINEAR A SIGN A3|14|15|16|17|18|19|20|21|22|23|24|25|26|27|28|29|30|31|32|33|34|35|36|37|38|39|40|41|42
10683|LINEAR A SIGN A3|43|44|45|46|47|48|49|50|51|52|53|54|55|56|57|58|59|60|61|62|63|64|65|66|67|68|69|70|71
106A0|LINEAR A SIGN A40|0-VAS|1-VAS|2-VAS|3-VAS|4-VAS|5-VAS|6-VAS|7-VAS|8-VAS|9-VAS
106AA|LINEAR A SIGN A41|0-VAS|1-VAS|2-VAS|3-VAS|4-VAS|5-VAS|6-VAS|7-VAS|8-VAS
106B3|LINEAR A SIGN A5|01|02|03|04|05|06|08|09|10|11|12|13|15|16|20|21|23|24|25|26|27|28
106C9|LINEAR A SIGN A5|29|30|31|32|34|35|36|37|38|39|40|41|42|45|47|48|49|50|51|52|53|54|55|56|57|59|63|64|65
106E6|LINEAR A SIGN A5|66|68|69|70|71|72|73|74|75|76|77|78|79|80|81|82|83|84|85|86|87|88|89|91|92|94|95|96|98
10703|LINEAR A SIGN A6|00|01|02|03|04|06|08|09|10|11|12|13|14|15|16|17|18|19|20|21|22|23|24
1071A|LINEAR A SIGN A6|26|27|28|29|34|37|38|40|42|43|44|45|46|48|49|51|52|53|54|55|56|57|58|59|60|61|62|63|64
10740|LINEAR A SIGN A70|1 A|2 B|3 D|4 E|5 F|6 H|7 J|8 K|9 L|9-2 L2|9-3 L3|9-4 L4|9-6 L6
1074D|LINEAR A SIGN A7|10 W|11 X|12 Y|13 OMEGA|14 ABB|15 BB|17 DD|26 EYYY|32 JE
10760|LINEAR A SIGN A80|0|1|2|3|4|5|6|7
10780|MODIFIER LETTER S|MALL CAPITAL AA|UPERSCRIPT TRIANGULAR COLON|UPERSCRIPT HALF TRIANGULAR COLON
10783|MODIFIER LETTER SMALL |AE|CAPITAL B|B WITH HOOK
10787|MODIFIER LETTER SMALL DZ DIGRAPH|| WITH RETROFLEX HOOK| WITH CURL
1078A|MODIFIER LETTER SMALL D|EZH DIGRAPH| WITH TAIL| WITH HOOK| WITH HOOK AND TAIL
1078E|MODIFIER LETTER SMALL |REVERSED E|CLOSED REVERSED OPEN E|FENG DIGRAPH
10791|MODIFIER LETTER SMALL |RAMS HORN|CAPITAL G|G WITH HOOK|CAPITAL G WITH HOOK|H WITH STROKE|CAPITAL H
10797|MODIFIER LETTER SMALL |HENG WITH HOOK|DOTLESS J WITH STROKE AND HOOK|LS DIGRAPH|LZ DIGRAPH|L WITH BELT
1079C|MODIFIER LETTER SMALL |CAPITAL L WITH BELT|L WITH RETROFLEX HOOK AND BELT|LEZH|LEZH WITH RETROFLEX HOOK
107A0|MODIFIER LETTER SMALL |TURNED Y|TURNED Y WITH BELT|O WITH STROKE|CAPITAL OE|CLOSED OMEGA|Q
107A6|MODIFIER LETTER SMALL TURNED R WITH LONG LEG|| AND RETROFLEX HOOK
107A8|MODIFIER LETTER SMALL |R WITH TAIL|R WITH FISHHOOK|CAPITAL R|TC DIGRAPH WITH CURL
107AC|MODIFIER LETTER SMALL TS DIGRAPH|| WITH RETROFLEX HOOK
107AE|MODIFIER LETTER SMALL |TESH DIGRAPH|T WITH RETROFLEX HOOK|V WITH RIGHT HOOK
107B2||MODIFIER LETTER SMALL CAPITAL Y
107B3|MODIFIER LETTER |GLOTTAL STOP WITH STROKE|REVERSED GLOTTAL STOP WITH STROKE|BILABIAL CLICK|DENTAL CLICK
107B7|MODIFIER LETTER |LATERAL CLICK|ALVEOLAR CLICK|RETROFLEX CLICK WITH RETROFLEX HOOK|SMALL S WITH CURL
10800|CYPRIOT SYLLABLE |A|E|I|O|U|JA
10808||CYPRIOT SYLLABLE JO
1080A|CYPRIOT SYLLABLE |KA|KE|KI|KO|KU|LA|LE|LI|LO|LU|MA|ME|MI|MO|MU|NA
1081A|CYPRIOT SYLLABLE |NE|NI|NO|NU|PA|PE|PI|PO|PU|RA|RE|RI|RO|RU|SA|SE|SI|SO|SU|TA|TE|TI|TO|TU|WA|WE|WI|WO
10837|CYPRIOT SYLLABLE X|A|E
1083C||CYPRIOT SYLLABLE ZA
1083F||CYPRIOT SYLLABLE ZO
10840|IMPERIAL ARAMAIC LETTER |ALEPH|BETH|GIMEL|DALETH|HE|WAW|ZAYIN
10847|IMPERIAL ARAMAIC LETTER |HETH|TETH|YODH|KAPH|LAMEDH|MEM|NUN|SAMEKH|AYIN|PE|SADHE|QOPH|RESH|SHIN|TAW
10857||IMPERIAL ARAMAIC SECTION SIGN
10858|IMPERIAL ARAMAIC NUMBER |ONE|TWO|THREE|TEN|TWENTY|ONE HUNDRED|ONE THOUSAND|TEN THOUSAND
10860|PALMYRENE LETTER |ALEPH|BETH|GIMEL|DALETH|HE|WAW|ZAYIN
10867|PALMYRENE LETTER |HETH|TETH|YODH|KAPH|LAMEDH|MEM|FINAL NUN|NUN|SAMEKH|AYIN|PE|SADHE|QOPH|RESH|SHIN|TAW
10877|PALMYRENE |LEFT-POINTING FLEURON|RIGHT-POINTING FLEURON
10879|PALMYRENE NUMBER |ONE|TWO|THREE|FOUR|FIVE|TEN|TWENTY
10880|NABATAEAN LETTER |FINAL ALEPH|ALEPH|FINAL BETH|BETH|GIMEL
10885|NABATAEAN LETTER |DALETH|FINAL HE|HE|WAW|ZAYIN|HETH|TETH|FINAL YODH|YODH|FINAL KAPH|KAPH|FINAL LAMEDH
10891|NABATAEAN LETTER |LAMEDH|FINAL MEM|MEM|FINAL NUN|NUN|SAMEKH|AYIN|PE|SADHE|QOPH|RESH|FINAL SHIN|SHIN|TAW
108A7|NABATAEAN NUMBER |ONE|TWO|THREE|FOUR
108AB||NABATAEAN CRUCIFORM NUMBER FOUR
108AC|NABATAEAN NUMBER |FIVE|TEN|TWENTY|ONE HUNDRED
108E0|HATRAN LETTER |ALEPH|BETH|GIMEL
108E3|HATRAN LETTER |DALETH-RESH|HE|WAW|ZAYN|HETH|TETH|YODH|KAPH|LAMEDH|MEM|NUN|SAMEKH|AYN|PE|SADHE|QOPH
108F4|HATRAN LETTER |SHIN|TAW
108FB|HATRAN NUMBER |ONE|FIVE|TEN|TWENTY|ONE HUNDRED
10900|PHOENICIAN LETTER |ALF|BET
10902|PHOENICIAN LETTER |GAML|DELT|HE|WAU|ZAI|HET|TET|YOD|KAF|LAMD|MEM|NUN|SEMK|AIN|PE|SADE|QOF|ROSH|SHIN|TAU
10916|PHOENICIAN NUMBER |ONE|TEN|TWENTY|ONE HUNDRED|TWO|THREE
1091F||PHOENICIAN WORD SEPARATOR
10920|LYDIAN LETTER |A|B|G|D|E|V|I|Y|K|L|M|N|O|R|SS|T|U|F|Q|S|TT|AN|EN|LY|NN|C
1093F||LYDIAN TRIANGULAR MARK
10980|MEROITIC HIEROGLYPHIC LETTER |A|E|I|O|YA|WA|BA|BA-2|PA|MA
1098A|MEROITIC HIEROGLYPHIC LETTER |NA|NA-2|NE|NE-2|RA|RA-2|LA|KHA|HHA|SA|SA-2|SE|KA|QA|TA|TA-2|TE|TE-2|TO|DA
1099E|MEROITIC HIEROGLYPHIC SYMBOL VIDJ||-2
109A0|MEROITIC CURSIVE LETTER |A|E|I|O|YA|WA|BA|PA|MA|NA|NE|RA|LA|KHA|HHA|SA|ARCHAIC SA|SE|KA|QA|TA|TE|TO|DA
109BC|MEROITIC CURSIVE |FRACTION ELEVEN TWELFTHS|FRACTION ONE HALF|LOGOGRAM RMT|LOGOGRAM IMN
109C0|MEROITIC CURSIVE NUMBER |ONE|TWO|THREE|FOUR|FIVE|SIX|SEVEN|EIGHT|NINE|TEN|TWENTY|THIRTY|FORTY|FIFTY
109CE|MEROITIC CURSIVE NUMBER S|IXTY|EVENTY
109D2|MEROITIC CURSIVE NUMBER |ONE HUNDRED|TWO HUNDRED|THREE HUNDRED|FOUR HUNDRED|FIVE HUNDRED
109D7|MEROITIC CURSIVE NUMBER S|IX HUNDRED|EVEN HUNDRED
109D9|MEROITIC CURSIVE NUMBER |EIGHT HUNDRED|NINE HUNDRED|ONE THOUSAND|TWO THOUSAND|THREE THOUSAND
109DE|MEROITIC CURSIVE NUMBER |FOUR THOUSAND|FIVE THOUSAND|SIX THOUSAND|SEVEN THOUSAND|EIGHT THOUSAND
109E3|MEROITIC CURSIVE NUMBER |NINE THOUSAND|TEN THOUSAND|TWENTY THOUSAND|THIRTY THOUSAND|FORTY THOUSAND
109E8|MEROITIC CURSIVE NUMBER |FIFTY THOUSAND|SIXTY THOUSAND|SEVENTY THOUSAND|EIGHTY THOUSAND|NINETY THOUSAND
109ED|MEROITIC CURSIVE NUMBER |ONE HUNDRED THOUSAND|TWO HUNDRED THOUSAND|THREE HUNDRED THOUSAND
109F0|MEROITIC CURSIVE NUMBER |FOUR HUNDRED THOUSAND|FIVE HUNDRED THOUSAND|SIX HUNDRED THOUSAND
109F3|MEROITIC CURSIVE NUMBER |SEVEN HUNDRED THOUSAND|EIGHT HUNDRED THOUSAND|NINE HUNDRED THOUSAND
109F6|MEROITIC CURSIVE FRACTION |ONE TWELFTH|TWO TWELFTHS|THREE TWELFTHS|FOUR TWELFTHS|FIVE TWELFTHS
109FB|MEROITIC CURSIVE FRACTION |SIX TWELFTHS|SEVEN TWELFTHS|EIGHT TWELFTHS|NINE TWELFTHS|TEN TWELFTHS
10A00||KHAROSHTHI LETTER A
10A01|KHAROSHTHI VOWEL SIGN |I|U|VOCALIC R
10A05|KHAROSHTHI VOWEL SIGN |E|O
10A0C|KHAROSHTHI |VOWEL LENGTH MARK|SIGN DOUBLE RING BELOW|SIGN ANUSVARA|SIGN VISARGA
10A10|KHAROSHTHI LETTER |KA|KHA|GA|GHA
10A15|KHAROSHTHI LETTER |CA|CHA|JA
10A19|KHAROSHTHI LETTER |NYA|TTA|TTHA|DDA|DDHA|NNA
10A1F|KHAROSHTHI LETTER |TA|THA|DA|DHA|NA|PA|PHA|BA|BHA|MA|YA|RA|LA|VA|SHA|SSA|SA|ZA|HA|KKA|TTTHA|TTTA|VHA
10A38|KHAROSHTHI SIGN |BAR ABOVE|CAUDA|DOT BELOW
10A3F|KHAROSHTHI |VIRAMA|DIGIT ONE|DIGIT TWO|DIGIT THREE|DIGIT FOUR
10A44|KHAROSHTHI NUMBER |TEN|TWENTY|ONE HUNDRED|ONE THOUSAND
10A48||KHAROSHTHI FRACTION ONE HALF
10A50|KHAROSHTHI PUNCTUATION |DOT|SMALL CIRCLE|CIRCLE|CRESCENT BAR|MANGALAM|LOTUS|DANDA|DOUBLE DANDA|LINES
10A60|OLD SOUTH ARABIAN LETTER |HE|LAMEDH|HETH|MEM|QOPH|WAW|SHIN|RESH|BETH|TAW|SAT|KAPH|NUN|KHETH|SADHE
10A6F|OLD SOUTH ARABIAN LETTER |SAMEKH|FE|ALEF|AYN|DHADHE|GIMEL|DALETH|GHAYN|TETH|ZAYN|DHALETH|YODH|THAW
10A7C|OLD SOUTH ARABIAN |LETTER THETH|NUMBER ONE|NUMBER FIFTY|NUMERIC INDICATOR
10A80|OLD NORTH ARABIAN LETTER |HEH|LAM|HAH|MEEM|QAF|WAW|ES-2|REH|BEH|TEH|ES-1|KAF
10A8C|OLD NORTH ARABIAN LETTER |NOON|KHAH|SAD|ES-3|FEH|ALEF|AIN|DAD|GEEM|DAL|GHAIN|TAH|ZAIN|THAL|YEH|THEH|ZAH
10A9D|OLD NORTH ARABIAN NUMBER |ONE|TEN|TWENTY
10AC0|MANICHAEAN LETTER |ALEPH|BETH|BHETH|GIMEL|GHIMEL|DALETH|HE|WAW
10AC8||MANICHAEAN SIGN UD
10AC9|MANICHAEAN LETTER |ZAYIN|ZHAYIN|JAYIN|JHAYIN|HETH|TETH|YODH|KAPH|XAPH|KHAPH|LAMEDH|DHAMEDH
10AD5|MANICHAEAN LETTER |THAMEDH|MEM|NUN|SAMEKH|AYIN|AAYIN|PE|FE|SADHE|QOPH|XOPH|QHOPH|RESH|SHIN|SSHIN|TAW
10AE5|MANICHAEAN ABBREVIATION MARK |ABOVE|BELOW
10AEB|MANICHAEAN NUMBER |ONE|FIVE|TEN|TWENTY|ONE HUNDRED
10AF0|MANICHAEAN PUNCTUATION |STAR|FLEURON|DOUBLE DOT WITHIN DOT|DOT WITHIN DOT|DOT|TWO DOTS|LINE FILLER
10B00|AVESTAN LETTER A||A|O|AO|N|AN|E|EE
10B08|AVESTAN LETTER |E|EE|O|OO|I|II|U|UU|KE|XE|XYE|XVE|GE|GGE|GHE|CE|JE|TE|THE|DE|DHE|TTE
10B1E|AVESTAN LETTER |PE|FE|BE|BHE|NGE|NGYE|NGVE|NE|NYE|NNE|ME|HME|YYE|YE|VE|RE|LE|SE|ZE|SHE|ZHE|SHYE|SSHE|HE
10B39||AVESTAN ABBREVIATION MARK
10B3A||TINY TWO DOTS OVER ONE DOT PUNCTUATION|SMALL TWO DOTS OVER ONE DOT PUNCTUATION
10B3C|LARGE |TWO DOTS OVER ONE DOT PUNCTUATION|ONE DOT OVER TWO DOTS PUNCTUATION
10B3E|LARGE |TWO RINGS OVER ONE RING PUNCTUATION|ONE RING OVER TWO RINGS PUNCTUATION
10B40|INSCRIPTIONAL PARTHIAN LETTER |ALEPH|BETH|GIMEL|DALETH|HE|WAW|ZAYIN|HETH
10B48|INSCRIPTIONAL PARTHIAN LETTER |TETH|YODH|KAPH|LAMEDH|MEM|NUN|SAMEKH|AYIN|PE|SADHE|QOPH|RESH|SHIN|TAW
10B58|INSCRIPTIONAL PARTHIAN NUMBER |ONE|TWO|THREE|FOUR|TEN|TWENTY|ONE HUNDRED|ONE THOUSAND
10B60|INSCRIPTIONAL PAHLAVI LETTER |ALEPH|BETH|GIMEL|DALETH|HE|WAW-AYIN-RESH
10B66|INSCRIPTIONAL PAHLAVI LETTER |ZAYIN|HETH|TETH|YODH|KAPH|LAMEDH|MEM-QOPH|NUN|SAMEKH|PE|SADHE|SHIN|TAW
10B78|INSCRIPTIONAL PAHLAVI NUMBER |ONE|TWO|THREE|FOUR|TEN|TWENTY|ONE HUNDRED|ONE THOUSAND
10B80|PSALTER PAHLAVI LETTER |ALEPH|BETH|GIMEL|DALETH|HE
10B85|PSALTER PAHLAVI LETTER |WAW-AYIN-RESH|ZAYIN|HETH|YODH|KAPH|LAMEDH|MEM-QOPH|NUN|SAMEKH|PE|SADHE|SHIN|TAW
10B99|PSALTER PAHLAVI |SECTION MARK|TURNED SECTION MARK|FOUR DOTS WITH CROSS|FOUR DOTS WITH DOT
10BA9|PSALTER PAHLAVI NUMBER |ONE|TWO|THREE|FOUR|TEN|TWENTY|ONE HUNDRED
10C00|OLD TURKIC LETTER |ORKHON A|YENISEI A
10C02|OLD TURKIC LETTER |YENISEI AE|ORKHON I|YENISEI I|YENISEI E|ORKHON O|ORKHON OE|YENISEI OE|ORKHON AB
10C0A|OLD TURKIC LETTER |YENISEI AB|ORKHON AEB|YENISEI AEB|ORKHON AG|YENISEI AG|ORKHON AEG|YENISEI AEG
10C11|OLD TURKIC LETTER |ORKHON AD|YENISEI AD|ORKHON AED|ORKHON EZ|YENISEI EZ|ORKHON AY|YENISEI AY|ORKHON AEY
10C19|OLD TURKIC LETTER |YENISEI AEY|ORKHON AEK|YENISEI AEK|ORKHON OEK|YENISEI OEK|ORKHON AL|YENISEI AL
10C20|OLD TURKIC LETTER ORKHON |AEL|ELT|EM|AN|AEN
10C25|OLD TURKIC LETTER |YENISEI AEN|ORKHON ENT|YENISEI ENT|ORKHON ENC|YENISEI ENC|ORKHON ENY|YENISEI ENY
10C2C|OLD TURKIC LETTER |YENISEI ANG|ORKHON ENG|YENISEI AENG|ORKHON EP|ORKHON OP|ORKHON IC|ORKHON EC
10C33|OLD TURKIC LETTER |YENISEI EC|ORKHON AQ|YENISEI AQ|ORKHON IQ|YENISEI IQ|ORKHON OQ|YENISEI OQ|ORKHON AR
10C3B|OLD TURKIC LETTER |YENISEI AR|ORKHON AER|ORKHON AS|ORKHON AES|ORKHON ASH|YENISEI ASH|ORKHON ESH
10C42|OLD TURKIC LETTER |YENISEI ESH|ORKHON AT|YENISEI AT|ORKHON AET|YENISEI AET|ORKHON OT|ORKHON BASH
10C80|OLD HUNGARIAN CAPITAL LETTER |A|AA|EB|AMB|EC|ENC|ECS|ED|AND|E|CLOSE E|EE|EF|EG|EGY|EH|I|II|EJ|EK|AK|UNK
10C96|OLD HUNGARIAN CAPITAL LETTER |EL|ELY|EM|EN|ENY|O|OO|NIKOLSBURG OE|RUDIMENTA OE|OEE|EP|EMP|ER|SHORT ER
10CA4|OLD HUNGARIAN CAPITAL LETTER E|S|SZ|T|NT|TY|CH
10CAA|OLD HUNGARIAN CAPITAL LETTER |U|UU|NIKOLSBURG UE|RUDIMENTA UE|EV|EZ|EZS|ENT-SHAPED SIGN|US
10CC0|OLD HUNGARIAN SMALL LETTER |A|AA|EB|AMB|EC|ENC|ECS|ED|AND|E|CLOSE E|EE|EF|EG|EGY|EH|I|II|EJ|EK|AK
10CD5|OLD HUNGARIAN SMALL LETTER |UNK|EL|ELY|EM|EN|ENY|O|OO|NIKOLSBURG OE|RUDIMENTA OE|OEE|EP|EMP|ER|SHORT ER
10CE4|OLD HUNGARIAN SMALL LETTER E|S|SZ|T|NT|TY|CH
10CEA|OLD HUNGARIAN SMALL LETTER |U|UU|NIKOLSBURG UE|RUDIMENTA UE|EV|EZ|EZS|ENT-SHAPED SIGN|US
10CFA|OLD HUNGARIAN NUMBER |ONE|FIVE|TEN|FIFTY|ONE HUNDRED|ONE THOUSAND
10D00|HANIFI ROHINGYA LETTER |A|BA|PA|TA|TTA|JA|CA|HA|KHA
10D09|HANIFI ROHINGYA LETTER |FA|DA|DDA|RA|RRA|ZA|SA|SHA|KA|GA|LA|MA|NA|WA|KINNA WA|YA|KINNA YA|NGA|NYA|VA
10D1D|HANIFI ROHINGYA VOWEL |A|I|U|E|O
10D22|HANIFI ROHINGYA |MARK SAKIN|MARK NA KHONNA|SIGN HARBAHAY|SIGN TAHALA|SIGN TANA|SIGN TASSI
10D30|HANIFI ROHINGYA DIGIT |ZERO|ONE|TWO|THREE|FOUR|FIVE|SIX|SEVEN|EIGHT|NINE
10E60|RUMI DIGIT |ONE|TWO|THREE|FOUR|FIVE|SIX|SEVEN|EIGHT|NINE
10E69|RUMI NUMBER T|EN|WENTY|HIRTY
10E6C|RUMI NUMBER |FORTY|FIFTY|SIXTY|SEVENTY|EIGHTY|NINETY|ONE HUNDRED|TWO HUNDRED|THREE HUNDRED
10E75|RUMI NUMBER |FOUR HUNDRED|FIVE HUNDRED|SIX HUNDRED|SEVEN HUNDRED|EIGHT HUNDRED|NINE HUNDRED
10E7B|RUMI FRACTION |ONE HALF|ONE QUARTER|ONE THIRD|TWO THIRDS
10E80|YEZIDI LETTER |ELIF|BE|PE|PHE|THE|SE|CIM|CHIM|CHHIM|HHA|XA|DAL|ZAL|RA|RHA|ZA|JA|SIN|SHIN|SAD|DAD|TA|ZE
10E97|YEZIDI LETTER |EYN|XHEYN|FA|VA|VA ALTERNATE FORM|QAF|KAF|KHAF|GAF|LAM|MIM|NUN|UM|WAW|OW|EW|HAY|YOT|ET
10EAB|YEZIDI |COMBINING HAMZA MARK|COMBINING MADDA MARK|HYPHENATION MARK
10EB0|YEZIDI LETTER |LAM WITH DOT ABOVE|YOT WITH CIRCUMFLEX ABOVE
10F00|OLD SOGDIAN LETTER |ALEPH|FINAL ALEPH|BETH|FINAL BETH|GIMEL|HE|FINAL HE|WAW|ZAYIN|HETH|YODH|KAPH|LAMEDH
10F0D|OLD SOGDIAN LETTER |MEM|NUN|FINAL NUN|FINAL NUN WITH VERTICAL TAIL|SAMEKH|AYIN|ALTERNATE AYIN|PE|SADHE
10F16|OLD SOGDIAN LETTER FINAL SADHE|| WITH VERTICAL TAIL
10F18|OLD SOGDIAN LETTER |RESH-AYIN-DALETH|SHIN|TAW|FINAL TAW|FINAL TAW WITH VERTICAL TAIL
10F1D|OLD SOGDIAN NUMBER |ONE|TWO|THREE|FOUR|FIVE|TEN|TWENTY|THIRTY|ONE HUNDRED
10F26|OLD SOGDIAN |FRACTION ONE HALF|LIGATURE AYIN-DALETH
10F30|SOGDIAN LETTER |ALEPH|BETH|GIMEL|HE|WAW
10F35|SOGDIAN LETTER |ZAYIN|HETH|YODH|KAPH|LAMEDH|MEM|NUN|SAMEKH|AYIN|PE|SADHE|RESH-AYIN|SHIN|TAW|FETH|LESH
10F45||SOGDIAN INDEPENDENT SHIN
10F46|SOGDIAN COMBINING |DOT BELOW|TWO DOTS BELOW|DOT ABOVE|TWO DOTS ABOVE|CURVE ABOVE
10F4B|SOGDIAN COMBINING |CURVE BELOW|HOOK ABOVE|HOOK BELOW|LONG HOOK BELOW|RESH BELOW|STROKE BELOW
10F51|SOGDIAN NUMBER |ONE|TEN|TWENTY|ONE HUNDRED
10F55|SOGDIAN PUNCTUATION TWO VERTICAL BARS|| WITH DOTS
10F57|SOGDIAN PUNCTUATION |CIRCLE WITH DOT|TWO CIRCLES WITH DOTS|HALF CIRCLE WITH DOT
10F70|OLD UYGHUR LETTER |ALEPH|BETH|GIMEL-HETH
10F73|OLD UYGHUR LETTER |WAW|ZAYIN|FINAL HETH|YODH|KAPH|LAMEDH|MEM|NUN|SAMEKH|PE|SADHE|RESH|SHIN|TAW|LESH
10F82|OLD UYGHUR COMBINING |DOT ABOVE|DOT BELOW|TWO DOTS ABOVE|TWO DOTS BELOW
10F86|OLD UYGHUR PUNCTUATION |BAR|TWO BARS|TWO DOTS|FOUR DOTS
10FB0|CHORASMIAN LETTER |ALEPH|SMALL ALEPH|BETH|GIMEL|DALETH
10FB5|CHORASMIAN LETTER |HE|WAW|CURLED WAW|ZAYIN|HETH|YODH|KAPH|LAMEDH|MEM|NUN|SAMEKH|AYIN|PE|RESH|SHIN|TAW
10FC5|CHORASMIAN NUMBER |ONE|TWO|THREE|FOUR|TEN|TWENTY|ONE HUNDRED
10FE0|ELYMAIC LETTER |ALEPH|BETH|GIMEL|DALETH
10FE4|ELYMAIC LETTER |HE|WAW|ZAYIN|HETH|TETH|YODH|KAPH|LAMEDH|MEM|NUN|SAMEKH|AYIN|PE|SADHE|QOPH|RESH|SHIN|TAW
10FF6||ELYMAIC LIGATURE ZAYIN-YODH
11000|BRAHMI SIGN |CANDRABINDU|ANUSVARA|VISARGA|JIHVAMULIYA|UPADHMANIYA
11005|BRAHMI LETTER |A|AA|I|II|U|UU
1100B|BRAHMI LETTER VOCALIC |R|RR|L|LL
1100F|BRAHMI LETTER |E|AI|O|AU|KA|KHA|GA|GHA|NGA|CA|CHA|JA|JHA|NYA|TTA|TTHA|DDA|DDHA|NNA|TA|THA|DA|DHA|NA|PA
11028|BRAHMI LETTER |PHA|BA|BHA|MA|YA|RA|LA|VA|SHA|SSA|SA|HA|LLA|OLD TAMIL LLLA|OLD TAMIL RRA|OLD TAMIL NNNA
11038|BRAHMI VOWEL SIGN |AA|BHATTIPROLU AA|I|II|U|UU|VOCALIC R|VOCALIC RR|VOCALIC L|VOCALIC LL|E|AI|O|AU
11046|BRAHMI |VIRAMA|DANDA|DOUBLE DANDA
11049|BRAHMI PUNCTUATION |DOT|DOUBLE DOT|LINE|CRESCENT BAR|LOTUS
11052|BRAHMI NUMBER |ONE|TWO|THREE|FOUR|FIVE|SIX|SEVEN|EIGHT
1105A|BRAHMI NUMBER |NINE|TEN|TWENTY|THIRTY|FORTY|FIFTY|SIXTY|SEVENTY|EIGHTY|NINETY|ONE HUNDRED|ONE THOUSAND
11066|BRAHMI DIGIT |ZERO|ONE|TWO|THREE|FOUR|FIVE|SIX|SEVEN|EIGHT|NINE
11070||BRAHMI SIGN OLD TAMIL VIRAMA
11071|BRAHMI LETTER OLD TAMIL SHORT |E|O
11073|BRAHMI VOWEL SIGN OLD TAMIL SHORT |E|O
11075||BRAHMI LETTER OLD TAMIL LLA
1107F||BRAHMI NUMBER JOINER
11080|KAITHI SIGN |CANDRABINDU|ANUSVARA|VISARGA
11083|KAITHI LETTER |A|AA|I|II|U|UU|E|AI|O|AU|KA|KHA|GA|GHA|NGA|CA|CHA|JA|JHA|NYA|TTA
11098|KAITHI LETTER |TTHA|DDA|DDDHA|DDHA|RHA|NNA|TA|THA|DA|DHA|NA|PA|PHA|BA|BHA|MA|YA|RA|LA|VA|SHA|SSA|SA|HA
110B0|KAITHI VOWEL SIGN |AA|I|II|U|UU|E|AI|O|AU
110B9|KAITHI |SIGN VIRAMA|SIGN NUKTA|ABBREVIATION SIGN|ENUMERATION SIGN
110BD|KAITHI |NUMBER SIGN|SECTION MARK|DOUBLE SECTION MARK|DANDA|DOUBLE DANDA|VOWEL SIGN VOCALIC R
110CD||KAITHI NUMBER SIGN ABOVE
110D0|SORA SOMPENG LETTER |SAH|TAH|BAH|CAH
110D4|SORA SOMPENG LETTER |DAH|GAH|MAH|NGAH|LAH|NAH|VAH|PAH|YAH|RAH|HAH|KAH|JAH|NYAH|AH|EEH|IH|UH|OH|EH|MAE
110F0|SORA SOMPENG DIGIT |ZERO|ONE|TWO|THREE|FOUR|FIVE|SIX|SEVEN|EIGHT|NINE
11100|CHAKMA SIGN |CANDRABINDU|ANUSVARA|VISARGA
11103|CHAKMA LETTER |AA|I|U|E|KAA|KHAA|GAA|GHAA|NGAA|CAA|CHAA|JAA|JHAA|NYAA|TTAA|TTHAA
11113|CHAKMA LETTER |DDAA|DDHAA|NNAA|TAA|THAA|DAA|DHAA|NAA|PAA|PHAA|BAA|BHAA|MAA|YYAA|YAA|RAA|LAA|WAA|SAA|HAA
11127|CHAKMA VOWEL SIGN |A|I|II|U|UU|E|AI|O|AU|OI
11131|CHAKMA |O MARK|AU MARK|VIRAMA|MAAYYAA
11136|CHAKMA DIGIT |ZERO|ONE|TWO|THREE|FOUR|FIVE|SIX|SEVEN|EIGHT|NINE
11140||CHAKMA SECTION MARK
11141|CHAKMA |DANDA|DOUBLE DANDA|QUESTION MARK|LETTER LHAA|VOWEL SIGN AA|VOWEL SIGN EI|LETTER VAA
11150|MAHAJANI LETTER |A|I|U|E|O|KA|KHA|GA|GHA|CA|CHA
1115B|MAHAJANI LETTER |JA|JHA|NYA|TTA|TTHA|DDA|DDHA|NNA|TA|THA|DA|DHA|NA|PA|PHA|BA|BHA|MA|RA|LA|VA|SA|HA|RRA
11173|MAHAJANI |SIGN NUKTA|ABBREVIATION SIGN|SECTION MARK|LIGATURE SHRI
11180|SHARADA SIGN |CANDRABINDU|ANUSVARA|VISARGA
11183|SHARADA LETTER |A|AA|I|II|U|UU
11189|SHARADA LETTER VOCALIC |R|RR|L|LL
1118D|SHARADA LETTER |E|AI|O|AU|KA|KHA|GA|GHA|NGA|CA|CHA|JA|JHA|NYA
1119B|SHARADA LETTER |TTA|TTHA|DDA|DDHA|NNA|TA|THA|DA|DHA|NA|PA|PHA|BA|BHA|MA|YA|RA|LA|LLA|VA|SHA|SSA|SA|HA
111B3|SHARADA VOWEL SIGN |AA|I|II|U|UU|VOCALIC R|VOCALIC RR|VOCALIC L|VOCALIC LL|E|AI|O|AU
111C0|SHARADA SIGN |VIRAMA|AVAGRAHA|JIHVAMULIYA|UPADHMANIYA
111C4|SHARADA |OM|DANDA|DOUBLE DANDA|ABBREVIATION SIGN|SEPARATOR|SANDHI MARK|SIGN NUKTA|VOWEL MODIFIER MARK
111CC|SHARADA |EXTRA SHORT VOWEL MARK|SUTRA MARK|VOWEL SIGN PRISHTHAMATRA E|SIGN INVERTED CANDRABINDU
111D0|SHARADA DIGIT |ZERO|ONE|TWO|THREE|FOUR|FIVE|SIX|SEVEN|EIGHT|NINE
111DA|SHARADA |EKAM|SIGN SIDDHAM|HEADSTROKE|CONTINUATION SIGN|SECTION MARK-1|SECTION MARK-2
111E1|SINHALA ARCHAIC DIGIT |ONE|TWO|THREE|FOUR|FIVE|SIX|SEVEN|EIGHT|NINE
111EA|SINHALA ARCHAIC NUMBER |TEN|TWENTY|THIRTY|FORTY|FIFTY|SIXTY|SEVENTY|EIGHTY|NINETY
111F3|SINHALA ARCHAIC NUMBER ONE |HUNDRED|THOUSAND
11200|KHOJKI LETTER |A|AA|I|U|E|AI|O|AU|KA|KHA|GA|GGA|GHA|NGA|CA|CHA|JA|JJA
11213||KHOJKI LETTER NYA
11214|KHOJKI LETTER |TTA|TTHA|DDA|DDHA|NNA|TA|THA|DA|DDDA|DHA|NA|PA|PHA|BA|BBA|BHA|MA|YA|RA|LA|VA|SA|HA|LLA
1122C|KHOJKI VOWEL SIGN |AA|I|II|U|E|AI|O|AU
11234|KHOJKI SIGN |ANUSVARA|VIRAMA|NUKTA|SHADDA
11238|KHOJKI |DANDA|DOUBLE DANDA|WORD SEPARATOR|SECTION MARK|DOUBLE SECTION MARK|ABBREVIATION SIGN|SIGN SUKUN
11280|MULTANI LETTER |A|I|U|E|KA|KHA|GA
11288||MULTANI LETTER GHA
1128A|MULTANI LETTER |CA|CHA|JA|JJA
1128F|MULTANI LETTER |NYA|TTA|TTHA|DDA|DDDA|DDHA|NNA|TA|THA|DA|DHA|NA|PA|PHA|BA
1129F|MULTANI LETTER |BHA|MA|YA|RA|LA|VA|SA|HA|RRA|RHA
112A9||MULTANI SECTION MARK
112B0|KHUDAWADI LETTER |A|AA|I|II|U|UU|E|AI|O|AU|KA|KHA|GA|GGA|GHA|NGA|CA|CHA|JA|JJA|JHA|NYA|TTA|TTHA
112C8|KHUDAWADI LETTER |DDA|DDDA|RRA|DDHA|NNA|TA|THA|DA|DHA|NA|PA|PHA|BA|BBA|BHA|MA|YA|RA|LA|VA|SHA|SA|HA
112DF||KHUDAWADI SIGN ANUSVARA
112E0|KHUDAWADI VOWEL SIGN |AA|I|II|U|UU|E|AI|O|AU
112E9|KHUDAWADI SIGN |NUKTA|VIRAMA
112F0|KHUDAWADI DIGIT |ZERO|ONE|TWO|THREE|FOUR|FIVE|SIX|SEVEN|EIGHT|NINE
11300|GRANTHA SIGN |COMBINING ANUSVARA ABOVE|CANDRABINDU|ANUSVARA|VISARGA
11305|GRANTHA LETTER |A|AA|I|II|U|UU|VOCALIC R|VOCALIC L
1130F|GRANTHA LETTER |EE|AI
11313|GRANTHA LETTER |OO|AU|KA|KHA|GA|GHA|NGA|CA|CHA|JA|JHA|NYA|TTA|TTHA|DDA|DDHA|NNA|TA|THA|DA|DHA|NA
1132A|GRANTHA LETTER |PA|PHA|BA|BHA|MA|YA|RA
11332|GRANTHA LETTER L|A|LA
11335|GRANTHA LETTER |VA|SHA|SSA|SA|HA
1133B||COMBINING BINDU BELOW
1133C|GRANTHA SIGN |NUKTA|AVAGRAHA
1133E|GRANTHA VOWEL SIGN |AA|I|II|U|UU|VOCALIC R|VOCALIC RR
11347|GRANTHA VOWEL SIGN |EE|AI
1134B|GRANTHA |VOWEL SIGN OO|VOWEL SIGN AU|SIGN VIRAMA
11350||GRANTHA OM
11357||GRANTHA AU LENGTH MARK
1135D||GRANTHA SIGN PLUTA
1135E|GRANTHA LETTER V|EDIC ANUSVARA|EDIC DOUBLE ANUSVARA|OCALIC RR|OCALIC LL
11362|GRANTHA VOWEL SIGN VOCALIC L||L
11366|COMBINING GRANTHA DIGIT |ZERO|ONE|TWO|THREE|FOUR|FIVE|SIX
11370|COMBINING GRANTHA LETTER |A|KA|NA|VI|PA
11400|NEWA LETTER |A|AA|I|II|U|UU
11406|NEWA LETTER VOCALIC |R|RR|L|LL
1140A|NEWA LETTER |E|AI|O|AU|KA|KHA|GA|GHA|NGA|NGHA|CA|CHA|JA|JHA|NYA|NYHA|TTA|TTHA
1141C|NEWA LETTER |DDA|DDHA|NNA|TA|THA|DA|DHA|NA|NHA|PA|PHA|BA|BHA|MA|MHA|YA|RA|RHA|LA|LHA|WA|SHA|SSA|SA|HA
11435|NEWA VOWEL SIGN |AA|I|II|U|UU|VOCALIC R|VOCALIC RR|VOCALIC L|VOCALIC LL|E|AI|O|AU
11442|NEWA SIGN |VIRAMA|CANDRABINDU|ANUSVARA|VISARGA|NUKTA|AVAGRAHA|FINAL ANUSVARA
11449|NEWA |OM|SIDDHI|DANDA|DOUBLE DANDA|COMMA|GAP FILLER|ABBREVIATION SIGN
11450|NEWA DIGIT |ZERO|ONE|TWO|THREE|FOUR|FIVE|SIX|SEVEN|EIGHT|NINE
1145A|NEWA |DOUBLE COMMA|PLACEHOLDER MARK
1145D|NEWA |INSERTION SIGN|SANDHI MARK|LETTER VEDIC ANUSVARA|SIGN JIHVAMULIYA|SIGN UPADHMANIYA
11480||TIRHUTA ANJI
11481|TIRHUTA LETTER |A|AA|I|II|U|UU
11487|TIRHUTA LETTER VOCALIC |R|RR|L|LL
1148B|TIRHUTA LETTER |E|AI|O|AU|KA|KHA|GA|GHA|NGA|CA|CHA|JA|JHA
11498|TIRHUTA LETTER |NYA|TTA|TTHA|DDA|DDHA|NNA|TA|THA|DA|DHA|NA|PA|PHA|BA|BHA|MA|YA|RA|LA|VA|SHA|SSA|SA|HA
114B0|TIRHUTA VOWEL SIGN |AA|I|II|U|UU|VOCALIC R|VOCALIC RR|VOCALIC L|VOCALIC LL|E|SHORT E|AI|O|SHORT O|AU
114BF|TIRHUTA SIGN |CANDRABINDU|ANUSVARA|VISARGA|VIRAMA|NUKTA|AVAGRAHA
114C5|TIRHUTA |GVANG|ABBREVIATION SIGN|OM
114D0|TIRHUTA DIGIT |ZERO|ONE|TWO|THREE|FOUR|FIVE|SIX|SEVEN|EIGHT|NINE
11580|SIDDHAM LETTER |A|AA|I|II|U|UU
11586|SIDDHAM LETTER VOCALIC |R|RR|L|LL
1158A|SIDDHAM LETTER |E|AI|O|AU|KA|KHA|GA|GHA|NGA|CA|CHA|JA|JHA
11597|SIDDHAM LETTER |NYA|TTA|TTHA|DDA|DDHA|NNA|TA|THA|DA|DHA|NA|PA|PHA|BA|BHA|MA|YA|RA|LA|VA|SHA|SSA|SA|HA
115AF|SIDDHAM VOWEL SIGN |AA|I|II|U|UU|VOCALIC R|VOCALIC RR
115B8|SIDDHAM VOWEL SIGN |E|AI|O|AU
115BC|SIDDHAM SIGN |CANDRABINDU|ANUSVARA|VISARGA|VIRAMA|NUKTA|SIDDHAM
115C2|SIDDHAM |DANDA|DOUBLE DANDA|SEPARATOR DOT|SEPARATOR BAR
115C6|SIDDHAM REPETITION MARK-|1|2|3
115C9||SIDDHAM END OF TEXT MARK
115CA|SIDDHAM SECTION MARK WITH TRIDENT AND |U-SHAPED ORNAMENTS|DOTTED CRESCENTS
115CC|SIDDHAM SECTION MARK WITH RAYS AND DOTTED |CRESCENTS|DOUBLE CRESCENTS|TRIPLE CRESCENTS
115CF|SIDDHAM SECTION MARK DOUBLE RING|| WITH RAYS
115D1|SIDDHAM SECTION MARK WITH |DOUBLE CRESCENTS|TRIPLE CRESCENTS|QUADRUPLE CRESCENTS|SEPTUPLE CRESCENTS
115D5|SIDDHAM SECTION MARK WITH CIRCLES AND |RAYS|TWO ENCLOSURES|FOUR ENCLOSURES
115D8|SIDDHAM LETTER |THREE-CIRCLE ALTERNATE I|TWO-CIRCLE ALTERNATE I|TWO-CIRCLE ALTERNATE II|ALTERNATE U
115DC|SIDDHAM VOWEL SIGN ALTERNATE U||U
11600|MODI LETTER |A|AA|I|II|U|UU
11606|MODI LETTER VOCALIC |R|RR|L|LL
1160A|MODI LETTER |E|AI|O|AU|KA|KHA|GA|GHA|NGA|CA|CHA|JA|JHA
11617|MODI LETTER |NYA|TTA|TTHA|DDA|DDHA|NNA|TA|THA|DA|DHA|NA|PA|PHA|BA|BHA|MA|YA|RA|LA|VA|SHA|SSA|SA|HA|LLA
11630|MODI VOWEL SIGN |AA|I|II|U|UU|VOCALIC R|VOCALIC RR|VOCALIC L|VOCALIC LL|E|AI|O|AU
1163D|MODI SIGN |ANUSVARA|VISARGA|VIRAMA|ARDHACANDRA
11641|MODI |DANDA|DOUBLE DANDA|ABBREVIATION SIGN|SIGN HUVA
11650|MODI DIGIT |ZERO|ONE|TWO|THREE|FOUR|FIVE|SIX|SEVEN|EIGHT|NINE
11660|MONGOLIAN |BIRGA WITH ORNAMENT|ROTATED BIRGA
11662|MONGOLIAN |DOUBLE BIRGA WITH ORNAMENT|TRIPLE BIRGA WITH ORNAMENT|BIRGA WITH DOUBLE ORNAMENT
11665|MONGOLIAN ROTATED BIRGA WITH |ORNAMENT|DOUBLE ORNAMENT
11667|MONGOLIAN INVERTED BIRGA|| WITH DOUBLE ORNAMENT
11669|MONGOLIAN SWIRL BIRGA|| WITH ORNAMENT| WITH DOUBLE ORNAMENT
1166C||MONGOLIAN TURNED SWIRL BIRGA WITH DOUBLE ORNAMENT
11680|TAKRI LETTER |A|AA|I|II|U|UU|E|AI|O|AU|KA|KHA|GA|GHA|NGA|CA|CHA|JA
11692|TAKRI LETTER |JHA|NYA|TTA|TTHA|DDA|DDHA|NNA|TA|THA|DA|DHA|NA|PA|PHA|BA|BHA|MA|YA|RA|LA|VA|SHA|SA|HA|RRA
116AB|TAKRI SIGN |ANUSVARA|VISARGA
116AD|TAKRI VOWEL SIGN |AA|I|II|U|UU|E|AI|O|AU
116B6|TAKRI |SIGN VIRAMA|SIGN NUKTA|LETTER ARCHAIC KHA|ABBREVIATION SIGN
116C0|TAKRI DIGIT |ZERO|ONE|TWO|THREE|FOUR|FIVE|SIX|SEVEN|EIGHT|NINE
11700|AHOM LETTER |KA|KHA|NGA|NA|TA|ALTERNATE TA
11706|AHOM LETTER |PA|PHA|BA|MA|JA|CHA|THA|RA|LA|SA|NYA|HA|A|DA|DHA|GA|ALTERNATE GA|GHA|BHA|JHA|ALTERNATE BA
1171D|AHOM CONSONANT SIGN MEDIAL |LA|RA|LIGATING RA
11720|AHOM VOWEL SIGN |A|AA|I|II|U|UU|E|AW|O|AI|AM
1172B||AHOM SIGN KILLER
11730|AHOM DIGIT |ZERO|ONE|TWO|THREE|FOUR|FIVE|SIX|SEVEN|EIGHT|NINE
1173A|AHOM |NUMBER TEN|NUMBER TWENTY|SIGN SMALL SECTION|SIGN SECTION|SIGN RULAI|SYMBOL VI
11740|AHOM LETTER |CA|TTA|TTHA|DDA|DDHA|NNA|LLA
11800|DOGRA LETTER |A|AA|I|II|U|UU|E|AI|O|AU|KA|KHA|GA|GHA|NGA|CA|CHA|JA|JHA
11813|DOGRA LETTER |NYA|TTA|TTHA|DDA|DDHA|NNA|TA|THA|DA|DHA|NA|PA|PHA|BA|BHA|MA|YA|RA|LA|VA|SHA|SSA|SA|HA|RRA
1182C|DOGRA VOWEL SIGN |AA|I|II|U|UU|VOCALIC R|VOCALIC RR|E|AI|O|AU
11837|DOGRA SIGN |ANUSVARA|VISARGA|VIRAMA|NUKTA
1183B||DOGRA ABBREVIATION SIGN
118A0|WARANG CITI CAPITAL LETTER |NGAA|A|WI|YU|YA|YO|II|UU|E|O|ANG|GA|KO
118AD|WARANG CITI CAPITAL LETTER |ENY|YUJ|UC|ENN|ODD|TTE|NUNG|DA|AT|AM|BU|PU|HIYO|HOLO|HORR|HAR|SSUU|SII|VIYO
118C0|WARANG CITI SMALL LETTER |NGAA|A|WI|YU|YA|YO|II|UU|E|O|ANG|GA|KO
118CD|WARANG CITI SMALL LETTER |ENY|YUJ|UC|ENN|ODD|TTE|NUNG|DA|AT|AM|BU|PU|HIYO|HOLO|HORR|HAR|SSUU|SII|VIYO
118E0|WARANG CITI DIGIT |ZERO|ONE|TWO|THREE|FOUR|FIVE|SIX|SEVEN|EIGHT|NINE
118EA|WARANG CITI NUMBER |TEN|TWENTY|THIRTY|FORTY|FIFTY|SIXTY|SEVENTY|EIGHTY|NINETY
118FF||WARANG CITI OM
11900|DIVES AKURU LETTER |A|AA|I|II|U|UU|E
11909||DIVES AKURU LETTER O
1190C|DIVES AKURU LETTER |KA|KHA|GA|GHA|NGA|CA|CHA|JA
11915|DIVES AKURU LETTER |NYA|TTA
11918|DIVES AKURU LETTER |DDA|DDHA|NNA|TA|THA|DA|DHA|NA|PA|PHA|BA|BHA|MA|YA|YYA|RA|LA|VA|SHA|SSA|SA|HA|LLA|ZA
11930|DIVES AKURU VOWEL SIGN |AA|I|II|U|UU|E
11937|DIVES AKURU VOWEL SIGN |AI|O
1193B|DIVES AKURU |SIGN ANUSVARA|SIGN CANDRABINDU|SIGN HALANTA|VIRAMA|PREFIXED NASAL SIGN
11940|DIVES AKURU |MEDIAL YA|INITIAL RA|MEDIAL RA|SIGN NUKTA|DOUBLE DANDA|GAP FILLER|END OF TEXT MARK
11950|DIVES AKURU DIGIT |ZERO|ONE|TWO|THREE|FOUR|FIVE|SIX|SEVEN|EIGHT|NINE
119A0|NANDINAGARI LETTER |A|AA|I|II|U|UU|VOCALIC R|VOCALIC RR
119AA|NANDINAGARI LETTER |E|AI|O|AU|KA|KHA|GA|GHA|NGA|CA|CHA|JA|JHA|NYA|TTA|TTHA
119BA|NANDINAGARI LETTER |DDA|DDHA|NNA|TA|THA|DA|DHA|NA|PA|PHA|BA|BHA|MA|YA|RA|LA|VA|SHA|SSA|SA|HA|LLA|RRA
119D1|NANDINAGARI VOWEL SIGN |AA|I|II|U|UU|VOCALIC R|VOCALIC RR
119DA|NANDINAGARI VOWEL SIGN |E|AI|O|AU
119DE|NANDINAGARI SIGN |ANUSVARA|VISARGA|VIRAMA|AVAGRAHA|SIDDHAM
119E3|NANDINAGARI |HEADSTROKE|VOWEL SIGN PRISHTHAMATRA E
11A00||ZANABAZAR SQUARE LETTER A
11A01|ZANABAZAR SQUARE VOWEL SIGN |I|UE|U|E|OE|O|AI|AU|REVERSED I
11A0A||ZANABAZAR SQUARE VOWEL LENGTH MARK
11A0B|ZANABAZAR SQUARE LETTER |KA|KHA|GA|GHA|NGA|CA|CHA|JA|NYA|TTA|TTHA|DDA|DDHA|NNA|TA|THA|DA|DHA
11A1D|ZANABAZAR SQUARE LETTER |NA|PA|PHA|BA|BHA|MA|TSA|TSHA|DZA|DZHA|ZHA|ZA|-A|YA|RA|LA|VA|SHA|SSA|SA|HA|KSSA
11A33|ZANABAZAR SQUARE |FINAL CONSONANT MARK|SIGN VIRAMA|SIGN CANDRABINDU|SIGN CANDRABINDU WITH ORNAMENT
11A37|ZANABAZAR SQUARE |SIGN CANDRA WITH ORNAMENT|SIGN ANUSVARA|SIGN VISARGA|CLUSTER-INITIAL LETTER RA
11A3B|ZANABAZAR SQUARE CLUSTER-FINAL LETTER |YA|RA|LA|VA
11A3F|ZANABAZAR SQUARE |INITIAL HEAD MARK|CLOSING HEAD MARK
11A41|ZANABAZAR SQUARE MARK |TSHEG|SHAD|DOUBLE SHAD|LONG TSHEG
11A45|ZANABAZAR SQUARE |INITIAL DOUBLE-LINED HEAD MARK|CLOSING DOUBLE-LINED HEAD MARK|SUBJOINER
11A50||SOYOMBO LETTER A
11A51|SOYOMBO VOWEL SIGN |I|UE|U|E|O|OE|AI|AU|VOCALIC R|VOCALIC L
11A5B||SOYOMBO VOWEL LENGTH MARK
11A5C|SOYOMBO LETTER |KA|KHA|GA|GHA|NGA|CA|CHA|JA|JHA|NYA|TTA|TTHA|DDA|DDHA|NNA
11A6B|SOYOMBO LETTER |TA|THA|DA|DHA|NA|PA|PHA|BA|BHA|MA|TSA|TSHA|DZA|ZHA|ZA|-A|YA|RA|LA|VA|SHA|SSA|SA|HA|KSSA
11A84|SOYOMBO SIGN |JIHVAMULIYA|UPADHMANIYA
11A86|SOYOMBO CLUSTER-INITIAL LETTER |RA|LA|SHA|SA
11A8A|SOYOMBO FINAL CONSONANT SIGN |G|K|NG|D|N|B|M|R|L|SH|S|-A
11A96|SOYOMBO |SIGN ANUSVARA|SIGN VISARGA|GEMINATION MARK|SUBJOINER
11A9A|SOYOMBO MARK |TSHEG|SHAD|DOUBLE SHAD|PLUTA
11A9E|SOYOMBO HEAD MARK WITH MOON AND SUN| AND TRIPLE FLAME| AND FLAME|
11AA1|SOYOMBO TERMINAL MARK-|1|2
11AB0|CANADIAN SYLLABICS NATTILIK |HI|HII|HO|HOO|HA|HAA|SHRI|SHRII|SHRO|SHROO|SHRA|SHRAA
11ABC|CANADIAN SYLLABICS SP|E|I|O|A
11AC0|PAU CIN HAU LETTER |PA|KA|LA|MA|DA|ZA|VA|NGA|HA|GA|KHA|SA|BA|CA|TA|THA|NA|PHA|RA|FA|CHA|A|E|I|O|U|UA|IA
11ADC|PAU CIN HAU LETTER FINAL |P|K|T|M|N|L|W|NG|Y
11AE5|PAU CIN HAU |RISING TONE LONG|RISING TONE|SANDHI GLOTTAL STOP|RISING TONE LONG FINAL|RISING TONE FINAL
11AEA|PAU CIN HAU SANDHI |GLOTTAL STOP FINAL|TONE LONG|TONE|TONE LONG FINAL|TONE FINAL
11AEF|PAU CIN HAU |MID-LEVEL TONE|GLOTTAL STOP VARIANT|MID-LEVEL TONE LONG FINAL|MID-LEVEL TONE FINAL
11AF3|PAU CIN HAU LOW-FALLING TONE| LONG|
11AF5|PAU CIN HAU |GLOTTAL STOP|LOW-FALLING TONE LONG FINAL|LOW-FALLING TONE FINAL|GLOTTAL STOP FINAL
11C00|BHAIKSUKI LETTER |A|AA|I|II|U|UU|VOCALIC R|VOCALIC RR|VOCALIC L
11C0A|BHAIKSUKI LETTER |E|AI|O|AU|KA|KHA|GA|GHA|NGA|CA|CHA|JA|JHA
11C17|BHAIKSUKI LETTER |NYA|TTA|TTHA|DDA|DDHA|NNA|TA|THA|DA|DHA|NA|PA|PHA|BA|BHA|MA|YA|RA|LA|VA|SHA|SSA|SA|HA
11C2F|BHAIKSUKI VOWEL SIGN |AA|I|II|U|UU|VOCALIC R|VOCALIC RR|VOCALIC L
11C38|BHAIKSUKI VOWEL SIGN |E|AI|O|AU
11C3C|BHAIKSUKI SIGN |CANDRABINDU|ANUSVARA|VISARGA|VIRAMA|AVAGRAHA
11C41|BHAIKSUKI |DANDA|DOUBLE DANDA|WORD SEPARATOR|GAP FILLER-1|GAP FILLER-2
11C50|BHAIKSUKI DIGIT |ZERO|ONE|TWO|THREE|FOUR|FIVE|SIX|SEVEN|EIGHT|NINE
11C5A|BHAIKSUKI NUMBER |ONE|TWO|THREE|FOUR|FIVE|SIX|SEVEN|EIGHT|NINE|TEN|TWENTY|THIRTY|FORTY|FIFTY|SIXTY
11C69|BHAIKSUKI |NUMBER SEVENTY|NUMBER EIGHTY|NUMBER NINETY|HUNDREDS UNIT MARK
11C70|MARCHEN |HEAD MARK|MARK SHAD
11C72|MARCHEN LETTER |KA|KHA|GA|NGA
11C76|MARCHEN LETTER |CA|CHA|JA|NYA|TA|THA|DA|NA|PA|PHA|BA|MA|TSA|TSHA|DZA|WA|ZHA|ZA|-A|YA|RA|LA|SHA|SA|HA|A
11C92|MARCHEN SUBJOINED LETTER |KA|KHA|GA|NGA|CA|CHA|JA|NYA|TA|THA|DA|NA|PA|PHA|BA|MA|TSA|TSHA|DZA|WA|ZHA|ZA
11CA9|MARCHEN SUBJOINED LETTER |YA|RA|LA|SHA|SA|HA|A
11CB0|MARCHEN VOWEL SIGN |AA|I|U|E|O
11CB5|MARCHEN SIGN |ANUSVARA|CANDRABINDU
11D00|MASARAM GONDI LETTER |A|AA|I|II|U|UU|E
11D08|MASARAM GONDI LETTER |AI|O
11D0B|MASARAM GONDI LETTER |AU|KA|KHA|GA|GHA|NGA|CA|CHA|JA|JHA|NYA|TTA|TTHA|DDA|DDHA
11D1A|MASARAM GONDI LETTER |NNA|TA|THA|DA|DHA|NA|PA|PHA|BA|BHA|MA|YA|RA|LA|VA|SHA|SSA|SA|HA|LLA|KSSA|JNYA|TRA
11D31|MASARAM GONDI VOWEL SIGN |AA|I|II|U|UU|VOCALIC R
11D3A||MASARAM GONDI VOWEL SIGN E
11D3C|MASARAM GONDI VOWEL SIGN |AI|O
11D3F|MASARAM GONDI |VOWEL SIGN AU|SIGN ANUSVARA|SIGN VISARGA|SIGN NUKTA|SIGN CANDRA|SIGN HALANTA|VIRAMA
11D46|MASARAM GONDI R|EPHA|A-KARA
11D50|MASARAM GONDI DIGIT |ZERO|ONE|TWO|THREE|FOUR|FIVE|SIX|SEVEN|EIGHT|NINE
11D60|GUNJALA GONDI LETTER |A|AA|I|II|U|UU
11D67|GUNJALA GONDI LETTER |EE|AI
11D6A|GUNJALA GONDI LETTER |OO|AU|YA|VA|BA|BHA|MA|KA|KHA|TA
11D74|GUNJALA GONDI LETTER |THA|LA|GA|GHA|DA|DHA|NA|CA|CHA|TTA|TTHA|LLA|JA|JHA|DDA|DDHA|NGA|PA|PHA|HA|RA|SA
11D8A|GUNJALA GONDI VOWEL SIGN |AA|I|II|U|UU
11D90|GUNJALA GONDI VOWEL SIGN |EE|AI
11D93|GUNJALA GONDI |VOWEL SIGN OO|VOWEL SIGN AU|SIGN ANUSVARA|SIGN VISARGA|VIRAMA|OM
11DA0|GUNJALA GONDI DIGIT |ZERO|ONE|TWO|THREE|FOUR|FIVE|SIX|SEVEN|EIGHT|NINE
11EE0|MAKASAR LETTER |KA|GA|NGA|PA|BA|MA|TA|DA|NA|CA|JA|NYA|YA|RA|LA|VA|SA|A
11EF2||MAKASAR ANGKA
11EF3|MAKASAR VOWEL SIGN |I|U|E|O
11EF7|MAKASAR |PASSIMBANG|END OF SECTION
11FB0||LISU LETTER YHA
11FC0|TAMIL FRACTION ONE |THREE-HUNDRED-AND-TWENTIETH|ONE-HUNDRED-AND-SIXTIETH|EIGHTIETH|SIXTY-FOURTH
11FC4|TAMIL FRACTION |ONE FORTIETH|ONE THIRTY-SECOND|THREE EIGHTIETHS|THREE SIXTY-FOURTHS|ONE TWENTIETH
11FC9|TAMIL FRACTION |ONE SIXTEENTH-1|ONE SIXTEENTH-2|ONE TENTH|ONE EIGHTH|THREE TWENTIETHS|THREE SIXTEENTHS
11FCF|TAMIL FRACTION |ONE FIFTH|ONE QUARTER|ONE HALF-1|ONE HALF-2|THREE QUARTERS|DOWNSCALING FACTOR KIIZH
11FD5|TAMIL SIGN |NEL|CEVITU|AAZHAAKKU
11FD8|TAMIL SIGN |UZHAKKU|MUUVUZHAKKU|KURUNI|PATHAKKU|MUKKURUNI|KAACU|PANAM|PON|VARAAKAN|PAARAM|KUZHI|VELI
11FE4|TAMIL |WET CULTIVATION SIGN|DRY CULTIVATION SIGN|LAND SIGN|SALT PAN SIGN
11FE8|TAMIL TRADITIONAL |CREDIT SIGN|NUMBER SIGN
11FEA|TAMIL |CURRENT SIGN|AND ODD SIGN|SPENT SIGN|TOTAL SIGN|IN POSSESSION SIGN|STARTING FROM SIGN
11FF0|TAMIL SIGN |MUTHALIYA|VAKAIYARAA
11FFF||TAMIL PUNCTUATION END OF TEXT|CUNEIFORM SIGN A
12001|CUNEIFORM SIGN A TIMES |A|BAD|GAN2 TENU|HA|IGI|LAGAR GUNU|MUSH|SAG
12009|CUNEIFORM SIGN A|2|B
1200B|CUNEIFORM SIGN AB TIMES |ASH2|DUN3 GUNU|GAL|GAN2 TENU|HA|IGI GUNU|IMIN|LAGAB|SHESH|U PLUS U PLUS U
12015|CUNEIFORM SIGN AB| GUNU|2
12017|CUNEIFORM SIGN AB2 TIMES |BALAG|GAN2 TENU|ME PLUS EN|SHA3|TAK4
1201C|CUNEIFORM SIGN A|D|K|K TIMES ERIN2|K TIMES SHITA PLUS GISH|L
12021|CUNEIFORM SIGN AL TIMES |AL|DIM2|GISH|HA|KAD3|KI|SHE|USH
12029|CUNEIFORM SIGN A|LAN|LEPH|MAR|MAR TIMES SHE|N|N OVER AN|N THREE TIMES|N PLUS NAGA OPPOSING AN PLUS NAGA
12031|CUNEIFORM SIGN A|N PLUS NAGA SQUARED|NSHE|PIN|RAD|RAD TIMES KUR|RKAB|SAL2|SH|SH ZIDA TENU|SH KABA TENU
1203B|CUNEIFORM SIGN ASH OVER ASH |TUG2 OVER TUG2 TUG2 OVER TUG2 PAP|OVER ASH
1203D|CUNEIFORM SIGN ASH| OVER ASH OVER ASH CROSSING ASH OVER ASH OVER ASH|2|GAB
12040|CUNEIFORM SIGN B|A|AD|AG3|AHAR2|AL|AL OVER BAL|ALAG|AR|ARA2|I|I TIMES A|I TIMES GAR|I TIMES IGI GUNU|U
1204E|CUNEIFORM SIGN |BU OVER BU AB|BU OVER BU UN|BU CROSSING BU|BULUG|BULUG OVER BULUG|BUR|BUR2|DA|DAG
12057|CUNEIFORM SIGN DAG KISIM5 TIMES |A PLUS MASH|AMAR|BALAG|BI|GA|GA PLUS MASH|GI|GIR2|GUD|HA|IR|IR PLUS LU
12063|CUNEIFORM SIGN DAG KISIM5 TIMES |KAK|LA|LU|LU PLUS MASH2|LUM|NE|PAP PLUS PAP|SI|TAK4|U2 PLUS GIR2|USH
1206E|CUNEIFORM SIGN D|AM|AR|ARA3|ARA4|I|IB|IM|IM TIMES SHE|IM2|IN|IN KASKAL U GUNU DISH|ISH
1207A|CUNEIFORM SIGN DU|| OVER DU| GUNU| SHESHIG|B|B TIMES ESH2|B2|G|GUD|H|N|N3|N3 GUNU|N3 GUNU GUNU|N4|R2
1208A|CUNEIFORM SIGN E|| TIMES PAP| OVER E NUN OVER NUN|2
1208E|CUNEIFORM SIGN E2 TIMES |A PLUS HA PLUS DA|GAR|MI|SAL|SHE|U
12094|CUNEIFORM SIGN E|DIN|GIR|L|N|N TIMES GAN2
12099|CUNEIFORM SIGN E|N TIMES GAN2 TENU|N TIMES ME|N CROSSING EN|N OPPOSING EN|N SQUARED|REN|RIN2|SH2|ZEN
120A2|CUNEIFORM SIGN EZEN TIMES |A|A PLUS LAL|A PLUS LAL TIMES LAL|AN|BAD|DUN3 GUNU|DUN3 GUNU GUNU
120A9|CUNEIFORM SIGN EZEN TIMES |HA|HA GUNU|IGI GUNU|KASKAL|KASKAL SQUARED|KU3|LA|LAL TIMES LAL|LI|LU|U2|UD
120B5|CUNEIFORM SIGN GA|| GUNU|2
120B8|CUNEIFORM SIGN GA2 TIMES A PLUS |DA PLUS HA|HA|IGI
120BB|CUNEIFORM SIGN GA2 TIMES |AB2 TENU PLUS TAB|AN|ASH|ASH2 PLUS GAL|BAD|BAR PLUS RA|BUR|BUR PLUS RA
120C3|CUNEIFORM SIGN GA2 TIMES |DA|DI|DIM TIMES SHE|DUB|EL|EL PLUS LA|EN|EN TIMES GAN2 TENU|GAN2 TENU|GAR|GI
120CE|CUNEIFORM SIGN GA2 TIMES |GI4|GI4 PLUS A|GIR2 PLUS SU|HA PLUS LU PLUS ESH2|HAL|HAL PLUS LA|HI PLUS LI
120D5|CUNEIFORM SIGN GA2 TIMES |HUB2|IGI GUNU|ISH PLUS HU PLUS ASH|KAK|KASKAL|KID|KID PLUS LAL|KU3 PLUS AN|LA
120DE|CUNEIFORM SIGN GA2 TIMES |ME PLUS EN|MI|NUN|NUN OVER NUN|PA|SAL|SAR|SHE|SHE PLUS TUR|SHID|SUM|TAK4|U|UD
120EC|CUNEIFORM SIGN GA|2 TIMES UD PLUS DU|2 OVER GA2|BA|BA CROSSING GABA|D|D OVER GAD GAR OVER GAR
120F2|CUNEIFORM SIGN GA|L|L GAD OVER GAD GAR OVER GAR|LAM|M|N|N2|N2 TENU|N2 OVER GAN2|N2 CROSSING GAN2|R|R3
120FD|CUNEIFORM SIGN G|ASHAN|ESHTIN|ESHTIN TIMES KUR
12100|CUNEIFORM SIGN GI|| TIMES E| TIMES U| CROSSING GI|4|4 OVER GI4|4 CROSSING GI4|DIM|R2|R2 GUNU|R3
1210B|CUNEIFORM SIGN GIR3 TIMES |A PLUS IGI|GAN2 TENU|IGI|LU PLUS IGI|PA
12110|CUNEIFORM SIGN G|ISAL|ISH|ISH CROSSING GISH|ISH TIMES BAD|ISH TIMES TAK4|ISH TENU|U|U CROSSING GU|U2
12119|CUNEIFORM SIGN GU2 TIMES |KAK|KAK TIMES IGI GUNU|NUN|SAL PLUS TUG2
1211D|CUNEIFORM SIGN GU|2 GUNU|D|D TIMES A PLUS KUR|D TIMES KUR|D OVER GUD LUGAL|L|M|M TIMES SHE|R|R7|RUN
12128|CUNEIFORM SIGN |GURUSH|HA|HA TENU|HA GUNU|HAL|HI
1212E|CUNEIFORM SIGN HI TIMES |ASH|ASH2|BAD|DISH|GAD|KIN|NUN|SHE|U
12137|CUNEIFORM SIGN HU||B2
12139|CUNEIFORM SIGN HUB2 TIMES |AN|HAL|KASKAL|LISH|UD
1213E|CUNEIFORM SIGN |HUL2|I|I A|IB|IDIM|IDIM OVER IDIM BUR|IDIM OVER IDIM SQUARED
12145|CUNEIFORM SIGN I|G|GI|GI DIB|GI RI|GI OVER IGI SHIR OVER SHIR UD OVER UD|GI GUNU|L|L TIMES GAN2 TENU|L2
1214E|CUNEIFORM SIGN |IM|IM TIMES TAK4|IM CROSSING IM|IM OPPOSING IM|IM SQUARED|IMIN|IN|IR|ISH|KA
12158|CUNEIFORM SIGN KA TIMES |A|AD|AD PLUS KU3|ASH2|BAD|BALAG|BAR|BI|ERIN2|ESH2|GA
12163|CUNEIFORM SIGN KA TIMES G|AL|AN2 TENU|AR|AR PLUS SHA3 PLUS A|I|IR2|ISH PLUS SAR|ISH CROSSING GISH|U|UR7
1216D|CUNEIFORM SIGN KA TIMES |IGI|IM|KAK|KI|KID|LI|LU|ME|ME PLUS DU|ME PLUS GI|ME PLUS TE|MI|MI PLUS NUNUZ
1217A|CUNEIFORM SIGN KA TIMES |NE|NUN|PI|RU|SA|SAR|SHA|SHE|SHID|SHU|SIG|SUHUR|TAR|U|U2|UD|UMUM TIMES PA|USH
1218C|CUNEIFORM SIGN KA| TIMES ZI|2|2 CROSSING KA2|B|D2|D3|D4|D5|D5 OVER KAD5|K|K TIMES IGI GUNU
12197|CUNEIFORM SIGN KA|L|L TIMES BAD|L CROSSING KAL|M2|M4|SKAL|SKAL LAGAB TIMES U OVER LAGAB TIMES U
1219E|CUNEIFORM SIGN K|ASKAL OVER KASKAL LAGAB TIMES U OVER LAGAB TIMES U|ESH2
121A0|CUNEIFORM SIGN KI|| TIMES BAD| TIMES U| TIMES UD|D|N|SAL|SH|SIM5|SIM5 OVER KISIM5
121AA|CUNEIFORM SIGN KU|| OVER HI TIMES ASH2 KU OVER HI TIMES ASH2|3|4|4 VARIANT FORM|7|L|L GUNU|N|R
121B4|CUNEIFORM SIGN |KUR OPPOSING KUR|KUSHU2|KWU318|LA|LAGAB
121B9|CUNEIFORM SIGN LAGAB TIMES A|| PLUS DA PLUS HA| PLUS GAR| PLUS LAL|L|N|SH ZIDA TENU
121C0|CUNEIFORM SIGN LAGAB TIMES |BAD|BI|DAR|EN|GA|GAR|GUD|GUD PLUS GUD|HA|HAL|HI TIMES NUN
121CB|CUNEIFORM SIGN LAGAB TIMES |IGI GUNU|IM|IM PLUS HA|IM PLUS LU|KI|KIN|KU3|KUL|KUL PLUS HI PLUS A|LAGAB
121D5|CUNEIFORM SIGN LAGAB TIMES |LISH|LU|LUL|ME|ME PLUS EN|MUSH|NE|SHE PLUS SUM|SHITA PLUS GISH PLUS ERIN2
121DE|CUNEIFORM SIGN LAGAB TIMES |SHITA PLUS GISH TENU|SHU2|SHU2 PLUS SHU2|SUM|TAG|TAK4
121E4|CUNEIFORM SIGN LAGAB TIMES |TE PLUS A PLUS SU PLUS NA|U|U PLUS A|U PLUS U PLUS U|U2 PLUS ASH|UD|USH
121EB|CUNEIFORM SIGN LAGA|B SQUARED|R|R TIMES SHE|R TIMES SHE PLUS SUM|R GUNU|R GUNU OVER LAGAR GUNU SHE
121F1|CUNEIFORM SIGN LA|HSHU|L|L TIMES LAL|M|M TIMES KUR|M TIMES KUR PLUS RU
121F7|CUNEIFORM SIGN L|I|IL|IMMU2|ISH|U|U TIMES BAD|U2
121FE|CUNEIFORM SIGN LU2 TIMES |AL|BAD|ESH2|ESH2 TENU|GAN2 TENU|HI TIMES BAD|IM|KAD2|KAD3|KAD3 PLUS ASH
12208|CUNEIFORM SIGN LU2 TIMES |KI|LA PLUS ASH|LAGAB|ME PLUS EN|NE|NU|SI PLUS ASH|SIK2 PLUS BU|TUG2
12211|CUNEIFORM SIGN LU|2 TENU|2 CROSSING LU2|2 OPPOSING LU2|2 SQUARED|2 SHESHIG|3|GAL|GAL OVER LUGAL
12219|CUNEIFORM SIGN LU|GAL OPPOSING LUGAL|GAL SHESHIG|H|L|M|M OVER LUM|M OVER LUM GAR OVER GAR
12220|CUNEIFORM SIGN M|A|A TIMES TAK4|A GUNU|A2|AH|AR|ASH|ASH2|E|ES|I|IN|U|U OVER MU|UG|UG GUNU|UNSUB|URGU2
12232|CUNEIFORM SIGN MUSH|| TIMES A| TIMES KUR| TIMES ZA| OVER MUSH| OVER MUSH TIMES A PLUS NA| CROSSING MUSH
12239|CUNEIFORM SIGN MUSH3|| TIMES A| TIMES A PLUS DI| TIMES DI| GUNU
1223E|CUNEIFORM SIGN NA||2|GA|GA INVERTED|GA TIMES SHU TENU|GA OPPOSING NAGA|GAR|M NUTILLU|M|M2
12248|CUNEIFORM SIGN NE|| TIMES A| TIMES UD| SHESHIG
1224C|CUNEIFORM SIGN NI|| TIMES E|2|M|M TIMES GAN2 TENU|M TIMES GAR PLUS GAN2 TENU|NDA2
12253|CUNEIFORM SIGN NINDA2 TIMES |AN|ASH|ASH PLUS ASH|GUD|ME PLUS GAN2 TENU|NE
12259|CUNEIFORM SIGN NINDA2 TIMES |NUN|SHE|SHE PLUS A AN|SHE PLUS ASH|SHE PLUS ASH PLUS ASH|U2 PLUS ASH|USH
12260|CUNEIFORM SIGN N|ISAG|U|U11|UN
12264|CUNEIFORM SIGN NUN LAGAR TIMES |GAR|MASH|SAL|SAL OVER NUN LAGAR TIMES SAL|USH
12269|CUNEIFORM SIGN NUN| TENU| OVER NUN| CROSSING NUN| CROSSING NUN LAGAR OVER LAGAR|UZ
1226E|CUNEIFORM SIGN NUNUZ AB2 TIMES |ASHGAB|BI|DUG|GUD|IGI GUNU|KAD3|LA|NE|SILA3|U2
12278|CUNEIFORM SIGN NUNUZ KISIM5 TIMES BI|| U
1227A|CUNEIFORM SIGN P|A|AD|AN|AP|ESH2|I
12280|CUNEIFORM SIGN PI TIMES |A|AB|BI|BU|E|I|IB|U|U2
12289|CUNEIFORM SIGN PI| CROSSING PI|RIG|RIG TIMES KAL|RIG TIMES UD|RIG TIMES ZA|RIG OPPOSING PIRIG
1228F|CUNEIFORM SIGN |RA|RAB|RI|RU|SA|SAG NUTILLU|SAG
12296|CUNEIFORM SIGN SAG TIMES |A|DU|DUB|HA|KAK|KUR|LUM|MI|NUN|SAL|SHID|TAB|U2|UB|UM|UR|USH
122A7|CUNEIFORM SIGN S|AG OVER SAG|AG GUNU|AL|AL LAGAB TIMES ASH2|ANGA2|AR|HA|HA3
122AF|CUNEIFORM SIGN SHA3 TIMES |A|BAD|GISH|NE|SHU2|TUR|U|U PLUS A
122B7|CUNEIFORM SIGN SH|A6|AB6|AR2|E|E HU
122BC|CUNEIFORM SIGN SHE OVER SHE |GAD OVER GAD GAR OVER GAR|TAB OVER TAB GAR OVER GAR
122BE|CUNEIFORM SIGN SH|EG9|EN|ESH|ESH2|ESHLAM|ID|ID TIMES A|ID TIMES IM|IM
122C7|CUNEIFORM SIGN SHIM TIMES |A|BAL|BULUG|DIN|GAR|IGI|IGI GUNU|KUSHU2|LUL|MUG|SAL
122D2|CUNEIFORM SIGN SH|INIG|IR|IR TENU|IR OVER SHIR BUR OVER BUR|ITA|U|U OVER INVERTED SHU|U2|UBUR
122DB|CUNEIFORM SIGN S|I|I GUNU|IG|IG4|IG4 OVER SIG4 SHU2|IK2|ILA3|U|U OVER SU|UD|UD2|UHUR|UM|UMASH|UR|UR9
122EB|CUNEIFORM SIGN TA|| ASTERISK
122ED|CUNEIFORM SIGN TA| TIMES HI| TIMES MI| GUNU|B|B OVER TAB NI OVER NI DISH OVER DISH|B SQUARED|G
122F4|CUNEIFORM SIGN TAG TIMES |BI|GUD|SHE|SHU|TUG2|UD
122FA|CUNEIFORM SIGN T|AK4|AR|E|E GUNU|I|I TENU|IL|IR|IR TIMES TAK4|IR OVER TIR
12304|CUNEIFORM SIGN T|IR OVER TIR GAD OVER GAD GAR OVER GAR|U|UG2|UK|UM|UR|UR OVER TUR ZA OVER ZA
1230B|CUNEIFORM SIGN U|| GUD| U U| OVER U PA OVER PA GAR OVER GAR
1230F|CUNEIFORM SIGN U| OVER U SUR OVER SUR| OVER U U REVERSED OVER U REVERSED|2|B|D|D KUSHU2
12315|CUNEIFORM SIGN UD TIMES |BAD|MI|U PLUS U PLUS U|U PLUS U PLUS U GUNU
12319|CUNEIFORM SIGN U|D GUNU|D SHESHIG|D SHESHIG TIMES BAD|DUG|M
1231E|CUNEIFORM SIGN UM TIMES |LAGAB|ME PLUS DA|SHA3|U
12322|CUNEIFORM SIGN U|MBIN|MUM|MUM TIMES KASKAL|MUM TIMES PA|N|N GUNU|R|R CROSSING UR|R SHESHIG|R2
1232C|CUNEIFORM SIGN UR2 TIMES |A PLUS HA|A PLUS NA|AL|HA|NUN|U2|U2 PLUS ASH|U2 PLUS BI
12334|CUNEIFORM SIGN UR|4|I|I3|U
12338|CUNEIFORM SIGN URU TIMES |A|ASHGAB|BAR|DUN|GA|GAL
1233E|CUNEIFORM SIGN URU TIMES |GAN2 TENU|GAR|GU|HA|IGI|IM|ISH|KI|LUM|MIN|PA|SHE|SIG4|TU|U PLUS GUD|UD|URUDA
1234F|CUNEIFORM SIGN U|RUDA|RUDA TIMES U|SH
12352|CUNEIFORM SIGN USH TIMES |A|KU|KUR|TAK4
12356|CUNEIFORM SIGN U|SHX|SH2|SHUMX|TUKI|Z3|Z3 TIMES KASKAL|ZU
1235D|CUNEIFORM SIGN Z|A|A TENU|A SQUARED TIMES KUR|AG|AMX|E2|I|I OVER ZI|I3|IB|IB KABA TENU|IG|IZ2|U|U5
1236C|CUNEIFORM SIGN |ZU5 TIMES A|ZUBUR|ZUM|KAP ELAMITE|AB TIMES NUN|AB2 TIMES A|AMAR TIMES KUG
12373|CUNEIFORM SIGN D|AG KISIM5 TIMES U2 PLUS MASH|AG3|ISH PLUS SHU|UB TIMES SHE
12377|CUNEIFORM SIGN |EZEN TIMES GUD|EZEN TIMES SHE|GA2 TIMES AN PLUS KAK PLUS A|GA2 TIMES ASH2|GE22|GIG|HUSH
1237E|CUNEIFORM SIGN KA TIMES |ANSHE|ASH3|GISH|GUD|HI TIMES ASH2|LUM|PA|SHUL|TU|UR2
12388|CUNEIFORM SIGN L|AGAB TIMES GI|U2 SHESHIG TIMES BAD|U2 TIMES ESH2 PLUS LAL|U2 TIMES SHU
1238C|CUNEIFORM SIGN |MESH|MUSH3 TIMES ZA|NA4|NIN|NIN9|NINDA2 TIMES BAL|NINDA2 TIMES GI
12393|CUNEIFORM SIGN |NU11 ROTATED NINETY DEGREES|PESH2 ASTERISK|PIR2|SAG TIMES IGI GUNU|TI2|UM TIMES ME|U U
12400|CUNEIFORM NUMERIC SIGN |TWO ASH|THREE ASH|FOUR ASH|FIVE ASH|SIX ASH
12405|CUNEIFORM NUMERIC SIGN |SEVEN ASH|EIGHT ASH|NINE ASH|THREE DISH|FOUR DISH|FIVE DISH|SIX DISH|SEVEN DISH
1240D|CUNEIFORM NUMERIC SIGN |EIGHT DISH|NINE DISH|FOUR U|FIVE U|SIX U|SEVEN U|EIGHT U|NINE U|ONE GESH2
12416|CUNEIFORM NUMERIC SIGN |TWO GESH2|THREE GESH2|FOUR GESH2|FIVE GESH2|SIX GESH2|SEVEN GESH2|EIGHT GESH2
1241D|CUNEIFORM NUMERIC SIGN |NINE GESH2|ONE GESHU|TWO GESHU|THREE GESHU|FOUR GESHU|FIVE GESHU|TWO SHAR2
12424|CUNEIFORM NUMERIC SIGN THREE SHAR2|| VARIANT FORM
12426|CUNEIFORM NUMERIC SIGN |FOUR SHAR2|FIVE SHAR2|SIX SHAR2|SEVEN SHAR2|EIGHT SHAR2|NINE SHAR2
1242C|CUNEIFORM NUMERIC SIGN |ONE SHARU|TWO SHARU|THREE SHARU|THREE SHARU VARIANT FORM|FOUR SHARU|FIVE SHARU
12432|CUNEIFORM NUMERIC SIGN SHAR2 TIMES GAL PLUS |DISH|MIN
12434|CUNEIFORM NUMERIC SIGN |ONE BURU|TWO BURU|THREE BURU|THREE BURU VARIANT FORM|FOUR BURU|FIVE BURU
1243A|CUNEIFORM NUMERIC SIGN THREE VARIANT FORM ESH|16|21
1243C|CUNEIFORM NUMERIC SIGN FOUR VARIANT FORM LIMMU||4| A| B
12440||CUNEIFORM NUMERIC SIGN SIX VARIANT FORM ASH9
12441|CUNEIFORM NUMERIC SIGN SEVEN VARIANT FORM IMIN|3| A| B
12444|CUNEIFORM NUMERIC SIGN EIGHT VARIANT FORM USSU||3
12446|CUNEIFORM NUMERIC SIGN NINE VARIANT FORM ILIMMU||3|4| A
1244A|CUNEIFORM NUMERIC SIGN |TWO ASH TENU|THREE ASH TENU|FOUR ASH TENU|FIVE ASH TENU
1244E|CUNEIFORM NUMERIC SIGN |SIX ASH TENU|ONE BAN2|TWO BAN2|THREE BAN2|FOUR BAN2|FOUR BAN2 VARIANT FORM
12454|CUNEIFORM NUMERIC SIGN |FIVE BAN2|FIVE BAN2 VARIANT FORM|NIGIDAMIN|NIGIDAESH|ONE ESHE3|TWO ESHE3
1245A|CUNEIFORM NUMERIC SIGN |ONE THIRD DISH|TWO THIRDS DISH|FIVE SIXTHS DISH|ONE THIRD VARIANT FORM A
1245E|CUNEIFORM NUMERIC SIGN |TWO THIRDS VARIANT FORM A|ONE EIGHTH ASH|ONE QUARTER ASH
12461|CUNEIFORM NUMERIC SIGN O|LD ASSYRIAN ONE SIXTH|LD ASSYRIAN ONE QUARTER|NE QUARTER GUR|NE HALF GUR
12465|CUNEIFORM NUMERIC SIGN ELAMITE |ONE THIRD|TWO THIRDS|FORTY|FIFTY
12469|CUNEIFORM NUMERIC SIGN |FOUR U VARIANT FORM|FIVE U VARIANT FORM|SIX U VARIANT FORM
1246C|CUNEIFORM NUMERIC SIGN |SEVEN U VARIANT FORM|EIGHT U VARIANT FORM|NINE U VARIANT FORM
12470|CUNEIFORM PUNCTUATION SIGN |OLD ASSYRIAN WORD DIVIDER|VERTICAL COLON
12472|CUNEIFORM PUNCTUATION SIGN DIAGONAL |COLON|TRICOLON|QUADCOLON
12480|CUNEIFORM SIGN A|B TIMES NUN TENU|B TIMES SHU2|D TIMES ESH2
12483|CUNEIFORM SIGN B|AD TIMES DISH TENU|AHAR2 TIMES AB2|AHAR2 TIMES NI|AHAR2 TIMES ZA|U OVER BU TIMES NA2
12488|CUNEIFORM SIGN D|A TIMES TAK4|AG TIMES KUR|IM TIMES IGI|IM TIMES U U U|IM2 TIMES UD
1248D|CUNEIFORM SIGN DUG TIMES |ANSHE|ASH|ASH AT LEFT|DIN|DUN|ERIN2|GA|GI|GIR2 GUNU|GISH|HA|HI|IGI GUNU
1249A|CUNEIFORM SIGN DUG TIMES K|ASKAL|UR|USHU2|USHU2 PLUS KASKAL
1249E|CUNEIFORM SIGN DUG TIMES |LAK-020|LAM|LAM TIMES KUR|LUH PLUS GISH|MASH|MES|MI|NI|PI|SHE|SI GUNU
124A9|CUNEIFORM SIGN E|2 TIMES KUR|2 TIMES PAP|RIN2 X|SH2 CROSSING ESH2
124AD|CUNEIFORM SIGN EZEN SHESHIG TIMES |ASH|HI|IGI GUNU|LA|LAL|ME|MES|SU
124B5|CUNEIFORM SIGN |EZEN TIMES SU|GA2 TIMES BAHAR2|GA2 TIMES DIM GUNU
124B8|CUNEIFORM SIGN GA2 TIMES |DUG TIMES IGI GUNU|DUG TIMES KASKAL|EREN|GA|GAR PLUS DI|GAR PLUS NE|HA PLUS A
124BF|CUNEIFORM SIGN GA2 TIMES |KUSHU2 PLUS KASKAL|LAM|LAM TIMES KUR|LUH|MUSH|NE|NE PLUS E2|NE PLUS GI|SHIM
124C8|CUNEIFORM SIGN G|A2 TIMES ZIZ2|ABA ROTATED NINETY DEGREES|ESHTIN TIMES U|ISH TIMES GISH CROSSING GISH
124CC|CUNEIFORM SIGN |GU2 TIMES IGI GUNU|GUD PLUS GISH TIMES TAK4|HA TENU GUNU|HI TIMES ASH OVER HI TIMES ASH
124D0|CUNEIFORM SIGN KA TIMES |BU|KA|U U U|UR
124D4||CUNEIFORM SIGN LAGAB TIMES ZU OVER ZU
124D5|CUNEIFORM SIGN LAK-0|03|21|25|30|50|51|62|79 OVER LAK-079 GUNU|80|81 OVER LAK-081|92
124E0|CUNEIFORM SIGN LAK-|130|142|210|219|220|225|228|238|265|266|343|347|348|383|384|390|441|449
124F2|CUNEIFORM SIGN LAK-449 TIMES |GU|IGI|PAP PLUS LU3|PAP PLUS PAP PLUS LU3|U2 PLUS BA
124F7|CUNEIFORM SIGN LAK-|450|457|470|483|490|492|493|495|550|608|617
12502|CUNEIFORM SIGN LAK-617 TIMES |ASH|BAD|DUN3 GUNU GUNU|KU3|LA|TAR|TE|U2|UD|URUDA
1250C|CUNEIFORM SIGN LAK-6|36|48
1250E|CUNEIFORM SIGN LAK-648 TIMES |DUB|GA|IGI|IGI GUNU|NI|PAP PLUS PAP PLUS LU3|SHESH PLUS KI|UD|URUDA
12517|CUNEIFORM SIGN L|AK-724|AK-749|U2 GUNU TIMES ASH
1251A|CUNEIFORM SIGN LU2 TIMES |DISH|HAL|PAP|PAP PLUS PAP PLUS LU3|TAK4
1251F|CUNEIFORM SIGN M|I PLUS ZA7|USH OVER MUSH TIMES GA|USH OVER MUSH TIMES KAK
12522|CUNEIFORM SIGN NINDA2 TIMES |DIM GUNU|GISH|GUL|HI|KESH2|LAK-050|MASH|PAP PLUS PAP|U|U PLUS U|URUDA
1252D|CUNEIFORM SIGN S|AG GUNU TIMES HA|AG TIMES EN|AG TIMES SHE AT LEFT|AG TIMES TAK4|HA6 TENU|HE OVER SHE
12533|CUNEIFORM SIGN SHE PLUS |HUB2|NAM2|SAR
12536|CUNEIFORM SIGN S|HU2 PLUS DUG TIMES NI|HU2 PLUS E2 TIMES AN|I TIMES TAK4
12539|CUNEIFORM SIGN |TAK4 PLUS SAG|TUM TIMES GAN2 TENU|TUM TIMES THREE DISH|UR2 INVERTED|UR2 TIMES UD
1253E|CUNEIFORM SIGN URU TIMES |DARA3|LAK-668|LU3
12541|CUNEIFORM SIGN Z|A7|U OVER ZU PLUS SAR|U5 TIMES THREE DISH TENU
12F90|CYPRO-MINOAN SIGN CM0|01|02|04|05|06|07|08|09|10|11|12|12B|13|15|17|19|21|23|24|25|26|27|28|29|30|33|34
12FAB|CYPRO-MINOAN SIGN CM0|35|36|37|38|39|40|41|44|46|47|49|50|51|52|53|54|55|56|58|59|60|61|62|63|64|66|67
12FC6|CYPRO-MINOAN SIGN CM0|68|69|70|71|72|73|74|75|75B|76|78|79|80|81|82|83|84|85|86|87|88|89|90|91|92|94|95
12FE1|CYPRO-MINOAN SIGN CM|096|097|098|099|100|101|102|103|104|105|107|108|109|110|112|114|301|302
13000|EGYPTIAN HIEROGLYPH A0|01|02|03|04|05|05A|06|06A|06B|07|08|09|10|11|12|13|14|14A|15
13013|EGYPTIAN HIEROGLYPH A0|16|17|17A|18|19|20|21|22|23|24|25|26|27|28|29|30|31|32|32A|33|34|35|36|37|38|39
1302D|EGYPTIAN HIEROGLYPH A04|0|0A|1|2|2A|3|3A|4|5|5A|6|7|8|9
1303B|EGYPTIAN HIEROGLYPH A0|50|51|52|53|54|55|56|57|58|59|60|61|62|63|64|65|66|67|68|69|70
13050|EGYPTIAN HIEROGLYPH B00|1|2|3|4|5|5A|6|7|8|9
1305A|EGYPTIAN HIEROGLYPH C00|1|2|2A|2B|2C|3|4|5|6|7|8|9
13066|EGYPTIAN HIEROGLYPH C0|10|10A|11|12|13|14|15|16|17|18|19|20|21|22|23|24
13076|EGYPTIAN HIEROGLYPH D0|01|02|03|04|05|06|07|08|08A|09|10|11|12|13|14|15|16
13087|EGYPTIAN HIEROGLYPH D0|17|18|19|20|21|22|23|24|25|26|27|27A|28|29|30|31|31A|32|33|34|34A|35|36|37|38|39
130A1|EGYPTIAN HIEROGLYPH D04|0|1|2|3|4|5|6|6A|7|8|8A|9
130AD|EGYPTIAN HIEROGLYPH D05|0|0A|0B|0C|0D|0E|0F|0G|0H|0I|1|2|2A|3|4|4A|5|6|7|8|9
130C2|EGYPTIAN HIEROGLYPH D06|0|1|2|3|4|5|6|7|7A|7B|7C|7D|7E|7F|7G|7H
130D2|EGYPTIAN HIEROGLYPH E0|01|02|03|04|05|06|07|08|08A|09|09A|10|11|12|13|14|15|16|16A
130E5|EGYPTIAN HIEROGLYPH E0|17|17A|18|19|20|20A|21|22|23|24|25|26|27|28|28A|29|30|31|32|33|34|34A|36|37|38
130FE|EGYPTIAN HIEROGLYPH F0|01|01A|02|03|04|05|06|07|08|09|10|11|12|13|13A
1310D|EGYPTIAN HIEROGLYPH F0|14|15|16|17|18|19|20|21|21A|22|23|24|25|26|27|28|29|30|31|31A|32|33|34|35|36|37
13127|EGYPTIAN HIEROGLYPH F0|37A|38|38A|39|40|41|42|43|44|45|45A|46|46A|47|47A|48|49|50|51|51A|51B|51C|52|53
1313F|EGYPTIAN HIEROGLYPH G0|01|02|03|04|05|06|06A|07|07A|07B|08|09|10
1314C|EGYPTIAN HIEROGLYPH G0|11|11A|12|13|14|15|16|17|18|19|20|20A|21|22|23|24|25|26|26A|27|28|29|30|31|32|33
13166|EGYPTIAN HIEROGLYPH G0|34|35|36|36A|37|37A|38|39|40|41|42|43|43A|44|45|45A|46|47|48|49|50|51|52|53|54
1317F|EGYPTIAN HIEROGLYPH H00|1|2|3|4|5|6|6A|7|8
13188|EGYPTIAN HIEROGLYPH I0|01|02|03|04|05|05A|06|07|08|09|09A|10|10A|11|11A|12|13|14|15
1319B|EGYPTIAN HIEROGLYPH K00|1|2|3|4|5|6|7|8
131A3|EGYPTIAN HIEROGLYPH L00|1|2|2A|3|4|5|6|6A|7|8
131AD|EGYPTIAN HIEROGLYPH M00|1|1A|1B|2|3|3A|4|5|6|7|8|9
131B9|EGYPTIAN HIEROGLYPH M01|0|0A|1|2|2A|2B|2C|2D|2E|2F|2G|2H|3|4|5|5A|6|6A|7|7A|8|9
131CF|EGYPTIAN HIEROGLYPH M02|0|1|2|2A|3|4|4A|5|6|7|8|8A|9
131DC|EGYPTIAN HIEROGLYPH M0|30|31|31A|32|33|33A|33B|34|35|36|37|38|39|40|40A|41|42|43|44
131EF|EGYPTIAN HIEROGLYPH N0|01|02|03|04|05|06|07|08|09|10|11|12|13|14|15|16|17|18|18A|18B|19|20|21|22
13207|EGYPTIAN HIEROGLYPH N0|23|24|25|25A|26|27|28|29|30|31|32|33|33A|34|34A|35|35A|36|37|37A|38|39|40|41|42
13220|EGYPTIAN HIEROGLYPH NL0|01|02|03|04|05|05A|06|07|08|09|10|11|12|13|14|15|16|17|17A|18|19|20
13236|EGYPTIAN HIEROGLYPH NU00|1|2|3|4|5|6|7|8|9
1323F|EGYPTIAN HIEROGLYPH NU0|10|10A|11|11A|12|13|14|15|16|17|18|18A|19|20|21|22|22A
13250|EGYPTIAN HIEROGLYPH O00|1|1A|2|3|4|5|5A|6|6A|6B|6C|6D|6E|6F|7|8|9
13261|EGYPTIAN HIEROGLYPH O01|0|0A|0B|0C|1|2|3|4|5|6|7|8|9|9A
1326F|EGYPTIAN HIEROGLYPH O0|20|20A|21|22|23|24|24A|25|25A|26|27|28|29|29A|30|30A|31|32|33|33A
13283|EGYPTIAN HIEROGLYPH O0|34|35|36|36A|36B|36C|36D|37|38|39|40|41|42|43|44|45|46|47|48|49|50|50A|50B|51
1329B|EGYPTIAN HIEROGLYPH P0|01|01A|02|03|03A|04|05|06|07|08|09|10|11
132A8|EGYPTIAN HIEROGLYPH Q00|1|2|3|4|5|6|7
132AF|EGYPTIAN HIEROGLYPH R00|1|2|2A|3|3A|3B|4|5|6|7|8|9
132BB|EGYPTIAN HIEROGLYPH R0|10|10A|11|12|13|14|15|16|16A|17|18|19|20|21|22|23|24|25|26|27|28|29
132D1|EGYPTIAN HIEROGLYPH S0|01|02|02A|03|04|05|06|06A|07|08|09|10|11|12|13|14|14A|14B|15|16|17|17A|18|19
132E9|EGYPTIAN HIEROGLYPH S02|0|1|2|3|4|5|6|6A|6B|7|8|9
132F5|EGYPTIAN HIEROGLYPH S0|30|31|32|33|34|35|35A|36|37|38|39|40|41|42|43|44|45|46
13307|EGYPTIAN HIEROGLYPH T0|01|02|03|03A|04|05|06|07|07A|08|08A|09|09A|10|11|11A|12|13
13319|EGYPTIAN HIEROGLYPH T0|14|15|16|16A|17|18|19|20|21|22|23|24|25|26|27|28|29|30|31|32|32A|33|33A|34|35|36
13333|EGYPTIAN HIEROGLYPH U0|01|02|03|04|05|06|06A|06B|07|08|09|10|11|12|13|14|15|16|17|18|19
13348|EGYPTIAN HIEROGLYPH U0|20|21|22|23|23A|24|25|26|27|28|29|29A|30|31|32|32A|33|34|35|36|37|38|39|40|41|42
13362|EGYPTIAN HIEROGLYPH V00|1|1A|1B|1C|1D|1E|1F|1G|1H|1I|2|2A|3|4|5|6|7|7A|7B|8|9
13377|EGYPTIAN HIEROGLYPH V01|0|1|1A|1B|1C|2|2A|2B|3|4|5|6|7|8|9
13386|EGYPTIAN HIEROGLYPH V02|0|0A|0B|0C|0D|0E|0F|0G|0H|0I|0J|0K|0L|1|2|3|3A|4|5|6|7|8|8A|9|9A
1339F|EGYPTIAN HIEROGLYPH V0|30|30A|31|31A|32|33|33A|34|35|36|37|37A|38|39|40|40A
133AF|EGYPTIAN HIEROGLYPH W00|1|2|3|3A|4|5|6|7|8|9|9A
133BA|EGYPTIAN HIEROGLYPH W0|10|10A|11|12|13|14|14A|15|16|17|17A|18|18A|19|20|21|22|23|24|24A|25
133CF|EGYPTIAN HIEROGLYPH X00|1|2|3|4|4A|4B|5|6|6A|7|8|8A
133DB|EGYPTIAN HIEROGLYPH Y00|1|1A|2|3|4|5|6|7|8
133E4|EGYPTIAN HIEROGLYPH Z00|1|2|2A|2B|2C|2D|3|3A|3B|4|4A|5|5A|6|7|8|9
133F5|EGYPTIAN HIEROGLYPH Z01|0|1|2|3|4|5|5A|5B|5C|5D|5E|5F|5G|5H|5I|6|6A|6B|6C|6D|6E|6F|6G|6H
1340D|EGYPTIAN HIEROGLYPH AA00|1|2|3|4|5|6|7|7A|7B|8|9
13418|EGYPTIAN HIEROGLYPH AA0|10|11|12|13|14|15|16|17|18|19|20|21|22|23|24|25|26|27|28|29|30|31|32
13430|EGYPTIAN HIEROGLYPH |VERTICAL JOINER|HORIZONTAL JOINER
13432|EGYPTIAN HIEROGLYPH INSERT AT |TOP START|BOTTOM START|TOP END|BOTTOM END
13436|EGYPTIAN HIEROGLYPH |OVERLAY MIDDLE|BEGIN SEGMENT|END SEGMENT
14400|ANATOLIAN HIEROGLYPH A0|01|02|03|04|05|06|07|08|09|10|10A|11|12|13|14|15|16|17|18|19|20|21|22|23
14418|ANATOLIAN HIEROGLYPH A0|24|25|26|26A|27|28|29|30|31|32|33|34|35|36|37|38|39|39A|40|41|41A|42|43|44|45
14431|ANATOLIAN HIEROGLYPH A0|45A|46|46A|46B|47|48|49|50|51|52|53|54|55|56|57|58|59|60|61|62|63|64|65|66|66A
1444A|ANATOLIAN HIEROGLYPH A0|66B|66C|67|68|69|70|71|72|73|74|75|76|77|78|79|80|81|82|83|84|85|86|87|88|89
14463|ANATOLIAN HIEROGLYPH A09|0|1|2|3|4|5|6|7|7A|8|8A|9
1446F|ANATOLIAN HIEROGLYPH A10|0|0A|1|1A|2|2A|3|4|4A|4B|4C|5|5A|5B|6|7|7A|7B|7C|8|9
14484|ANATOLIAN HIEROGLYPH A1|10|10A|10B|11|12|13|14|15|15A|16|17|18|19|20|21|22|23
14495|ANATOLIAN HIEROGLYPH A1|24|25|25A|26|27|28|29|30|31|32|33|34|35|35A|36|37|38|39|40|41|42|43|44|45|46|47
144AF|ANATOLIAN HIEROGLYPH A1|48|49|50|51|52|53|54|55|56|57|58|59|60|61|62|63|64|65|66|67|68|69|70|71|72|73
144C9|ANATOLIAN HIEROGLYPH A1|74|75|76|77|78|79|80|81|82|83|84|85|86|87|88|89|90|91|92|93|94|95|96|97|98|99
144E3|ANATOLIAN HIEROGLYPH A20|0|1|2|2A|2B|3|4|5|6|7|7A|8|9|9A
144F1|ANATOLIAN HIEROGLYPH A2|10|11|12|13|14|15|15A|16|16A|17|18|19|20|21|22|23|24|25|26|27
14505|ANATOLIAN HIEROGLYPH A2|27A|28|29|30|31|32|33|34|35|36|37|38|39|40|41|42|43|44|45|46|47|48|49|50|51|52
1451F|ANATOLIAN HIEROGLYPH A2|53|54|55|56|57|58|59|60|61|62|63|64|65|66|67|67A|68|69|70|71|72|73|74|75|76|77
14539|ANATOLIAN HIEROGLYPH A2|78|79|80|81|82|83|84|85|86|87|88|89|89A|90|91|92|93|94|94A|95|96|97|98|99|99A
14552|ANATOLIAN HIEROGLYPH A3|00|01|02|03|04|05|06|07|08|09|09A|10|11|12|13|14|15|16|17
14565|ANATOLIAN HIEROGLYPH A3|18|19|20|21|22|23|24|25|26|27|28|29|29A|30|31|32A|32B|32C|33|34|35|36|36A|36B
1457D|ANATOLIAN HIEROGLYPH A3|36C|37|38|39|40|41|42|43|44|45|46|47|48|49|50|51|52|53|54|55|56|57|58|59|59A|60
14597|ANATOLIAN HIEROGLYPH A3|61|62|63|64|64A|65|66|67|68|68A|69|70|71|71A|72|73|74|75|76|77|78|79|80|81|81A
145B0|ANATOLIAN HIEROGLYPH A3|82|83 RA OR RI|83A|84|85|86|86A|87|88|89|90|91|92|93 EIGHT|94|95|96|97|98|99
145C4|ANATOLIAN HIEROGLYPH A4|00|01|02|03|04|05|06|07|08|09|10 BEGIN LOGOGRAM MARK|10A END LOGOGRAM MARK|11
145D1|ANATOLIAN HIEROGLYPH A4|12|13|14|15|16|17|18|19|20|21|22|23|24|25|26|27|28|29|30|31|32|33|34|35|36|37
145EB|ANATOLIAN HIEROGLYPH A4|38|39|40|41|42|43|44|45|46|47|48|49|50|50A|51|52|53|54|55|56|57|57A|58|59|60|61
14605|ANATOLIAN HIEROGLYPH A4|62|63|64|65|66|67|68|69|70|71|72|73|74|75|76|77|78|79|80|81|82|83|84|85|86|87
1461F|ANATOLIAN HIEROGLYPH A|488|489|490|491|492|493|494|495|496|497|501|502|503|504
1462D|ANATOLIAN HIEROGLYPH A5|05|06|07|08|09|10|11|12|13|14|15|16|17|18|19|20|21|22|23|24|25|26|27|28|29|30
16800|BAMUM LETTER PHASE-A |NGKUE MFON|GBIEE FON|PON MFON PIPAEMGBIEE|PON MFON PIPAEMBA|NAA MFON|SHUENSHUET
16806|BAMUM LETTER PHASE-A |TITA MFON|NZA MFON|SHINDA PA NJI|PON PA NJI PIPAEMGBIEE|PON PA NJI PIPAEMBA
1680B|BAMUM LETTER PHASE-A |MAEMBGBIEE|TU MAEMBA|NGANGU|MAEMVEUX|MANSUAE|MVEUAENGAM|SEUNYAM
16812|BAMUM LETTER PHASE-A |NTOQPEN|KEUKEUTNDA|NKINDI|SUU|NGKUENZEUM|LAPAQ|LET KUT|NTAP MFAA|MAEKEUP|PASHAE
1681C|BAMUM LETTER PHASE-A |GHEUAERAE|PAMSHAE|MON NGGEUAET|NZUN MEUT|U YUQ NAE|GHEUAEGHEUAE|NTAP NTAA|SISA
16824|BAMUM LETTER PHASE-A M|GBASA|EUNJOMNDEUQ|OOMPUQ
16827|BAMUM LETTER PHASE-A |KAFA|PA LEERAEWA|NDA LEERAEWA|PET|MAEMKPEN|NIKA|PUP|TUAEP|LUAEP|SONJAM|TEUTEUWEN
16832|BAMUM LETTER PHASE-A |MAENYI|KET|NDAANGGEUAET|KUOQ|MOOMEUT|SHUM|LOMMAE|FIRI|ROM|KPOQ|SOQ|MAP PIEET
1683E|BAMUM LETTER PHASE-A |SHIRAE|NTAP|SHOQ NSHUT YUM|NYIT MONGKEUAEQ|PAARAE|NKAARAE|UNKNOWN|NGGEN|MAESI
16847|BAMUM LETTER PHASE-A |NJAM|MBANYI|NYET|TEUAEN|SOT|PAAM|NSHIEE|MAEM|NYI|KAQ|NSHA|VEE|LU|NEN|NAQ|MBAQ
16857|BAMUM LETTER PHASE-B |NSHUET|TU MAEMGBIEE|SIEE|SET TU|LOM NTEUM|MBA MAELEE|KIEEM|YEURAE
1685F|BAMUM LETTER PHASE-B |MBAARAE|KAM|PEESHI|YAFU LEERAEWA|LAM NSHUT NYAM|NTIEE SHEUOQ|NDU NJAA|GHEUGHEUAEM
16867|BAMUM LETTER PHASE-B |PIT|TU NSIEE|SHET NJAQ|SHEUAEQTU|MFON TEUAEQ|MBIT MBAAKET|NYI NTEUM|KEUPUQ
1686F|BAMUM LETTER PHASE-B |GHEUGHEN|KEUYEUX|LAANAE|PARUM|VEUM|NGKINDI MVOP|NGGEU MBU|WUAET|SAKEUAE|TAAM
16879|BAMUM LETTER PHASE-B |MEUQ|NGGUOQ|NGGUOQ LARGE|MFIYAQ|SUE|MBEURI|MONTIEEN|NYAEMAE|PUNGAAM|MEUT NGGEET
16883|BAMUM LETTER PHASE-B |FEUX|MBUOQ|FEE|KEUAEM|MA NJEUAENA|MA NJUQA|LET|NGGAAM|NSEN|MA|KIQ|NGOM
1688F|BAMUM LETTER PHASE-C |NGKUE MAEMBA|NZA|YUM|WANGKUOQ|NGGEN|NDEUAEREE|NGKAQ|GHARAE|MBEEKEET|GBAYI
16899|BAMUM LETTER PHASE-C |NYIR MKPARAQ MEUN|NTU MBIT|MBEUM|PIRIEEN|NDOMBU|MBAA CABBAGE-TREE|KEUSHEUAEP|GHAP
168A1|BAMUM LETTER PHASE-C |KEUKAQ|YU MUOMAE|NZEUM|MBUE|NSEUAEN|MBIT|YEUQ|KPARAQ|KAA|SEUX|NDIDA|TAASHAE|NJUEQ
168AE|BAMUM LETTER PHASE-C |TITA YUE|SUAET|NGGUAEN NYAM|VEUX|NANSANAQ|MA KEUAERI|NTAA|NGGUON|LAP|MBIRIEEN
168B8|BAMUM LETTER PHASE-C |MGBASAQ|NTEUNGBA|TEUTEUX|NGGUM|FUE|NDEUT|NSA|NSHAQ|BUNG|VEUAEPEN|MBERAE|RU|NJAEM
168C5|BAMUM LETTER PHASE-C |LAM|TITUAEP|NSUOT NGOM|NJEEEE|KET|NGGU|MAESI|MBUAEM|LU|KUT|NJAM|NGOM|WUP|NGGUEET
168D3|BAMUM LETTER PHASE-C |NSOM|NTEN|KUOP NKAARAE|NSUN|NDAM|MA NSIEE|YAA|NDAP|SHUEQ|SETFON|MBI|MAEMBA|MBANYI
168E0|BAMUM LETTER PHASE-C |KEUSEUX|MBEUX|KEUM|MBAA PICKET|YUWOQ|NJEUX|MIEE|MUAE|SHIQ|KEN LAW|KEN FATIGUE
168EB|BAMUM LETTER PHASE-|C NGAQ|C NAQ|C LIQ|C PIN|C PEN|C TET|D MBUO|D WAP|D NJI|D MFON|D NJIEE
168F6|BAMUM LETTER PHASE-D |LIEE|NJEUT|NSHEE|NGGAAMAE|NYAM|WUAEN|NGKUN|SHEE|NGKAP|KEUAETMEUN|TEUT|SHEUAE|NJAP
16903|BAMUM LETTER PHASE-D |SUE|KET|YAEMMAE|KUOM|SAP|MFEUT|NDEUX|MALEERI|MEUT|SEUAEQ|YEN|NJEUAEM|KEUOT MBUAE
16910|BAMUM LETTER PHASE-D |NGKEURI|TU|GHAA|NGKYEE|FEUFEUAET|NDEE|MGBOFUM|LEUAEP|NDON|MONI|MGBEUN|PUUT
1691C|BAMUM LETTER PHASE-D |MGBIEE|MFO|LUM|NSIEEP|MBAA|KWAET|NYET|TEUAEN|SOT|YUWOQ|KEUM|RAEM|TEEEE|NGKEUAEQ
1692A|BAMUM LETTER PHASE-D |MFEUAE|NSIEET|KEUP|PIP|PEUTAE|NYUE|LET|NGGAAM|MFIEE|NGGWAEN|YUOM|PAP|YUOP|NDAM
16938|BAMUM LETTER PHASE-D |NTEUM|SUAE|KUN|NGGEUX|NGKIEE|TUOT|MEUN|KUQ|NSUM|TEUN|MAENJET|NGGAP|LEUM|NGGUOM
16946|BAMUM LETTER PHASE-D |NSHUT|NJUEQ|GHEUAE|KU|REN OLD|TAE|TOQ|NYI|RII|LEEEE|MEEEE|M|SUU|MU|SHII|SHEUX
16956|BAMUM LETTER PHASE-D |KYEE|NU|SHU|NTEE|PEE|NI|SHOQ|PUQ|MVOP|LOQ|REN MUCH|TI|NTUU|MBAA SEVEN|SAQ|FAA
16966|BAMUM LETTER PHASE-E |NDAP|TOON|MBEUM|LAP|VOM|LOON|PAA|SOM|RAQ|NSHUOP|NDUN|PUAE|TAM|NGKA|KPEUX|WUO
16976|BAMUM LETTER PHASE-E |SEE|NGGEUAET|PAAM|TOO|KUOP|LOM|NSHIEE|NGOP|MAEM|NGKEUX|NGOQ|NSHUE|RIMGBA|NJEUX
16984|BAMUM LETTER PHASE-E |PEEM|SAA|NGGURAE|MGBA|GHEUX|NGKEUAEM|NJAEMLI|MAP|LOOT|NGGEEEE|NDIQ|TAEN NTEUM
16990|BAMUM LETTER PHASE-E |SET|PUM|NDAA SOFTNESS|NGGUAESHAE NYAM|YIEE|GHEUN|TUAE|YEUAE|PO|TUMAE|KEUAE|SUAEN
1699C|BAMUM LETTER PHASE-E |TEUAEQ|VEUAE|WEUX|LAAM|PU|TAAQ|GHAAMAE|NGEUREUT|SHEUAEQ|MGBEN|MBEE|NZAQ|NKOM
169A9|BAMUM LETTER PHASE-E |GBET|TUM|KUET|YAP|NYI CLEAVER|YIT|MFEUQ|NDIAQ|PIEEQ|YUEQ|LEUAEM|FUE|GBEUX|NGKUP
169B7|BAMUM LETTER PHASE-E |KET|MAE|NGKAAMI|GHET|FA|NTUM|PEUT|YEUM|NGGEUAE|NYI BETWEEN|NZUQ|POON|MIEE|FUET
169C5|BAMUM LETTER PHASE-E |NAE|MUAE|GHEUAE|FU I|MVI|PUAQ|NGKUM|KUT|PIET|NTAP|YEUAET|NGGUP|PA PEOPLE|FU CALL
169D3|BAMUM LETTER PHASE-E |FOM|NJEE|A|TOQ|O|I|LAQ|PA PLURAL|TAA|TAQ|NDAA MY HOUSE|SHIQ|YEUX|NGUAE|YUAEN
169E2|BAMUM LETTER PHASE-E |YOQ SWIMMING|YOQ COVER|YUQ|YUN|KEUX|PEUX|NJEE EPOCH|PUE|WUE|FEE|VEE|LU|MI|REUX
169F0|BAMUM LETTER PHASE-E |RAE|NGUAET|NGA|SHO|SHOQ|FU REMEDY|NA|PI|LOQ|KO|MEN|MA|MAQ|TEU|KI|MON|TEN|FAQ|GHOM
16A03|BAMUM LETTER PHASE-F |KA|U|KU|EE|REE|TAE|NYI|LA|RII|RIEE|MEEEE|TAA|NDAA|NJAEM|M|SUU
16A13|BAMUM LETTER PHASE-F |SHII|SI|SEUX|KYEE|KET|NUAE|NU|NJUAE|YOQ|SHU|YA|NSHA|PEUX|NTEE|WUE|PEE|RU|NI|REUX
16A26|BAMUM LETTER PHASE-F |KEN|NGKWAEN|NGGA|SHO|PUAE|FOM|WA|LI|LOQ|KO|MBEN|REN|MA|MO|MBAA|TET|KPA|SAMBA|VUEQ
16A40|MRO LETTER |TA|NGI|YO|MIM|BA|DA
16A46|MRO LETTER |A|PHI|KHAI|HAO|DAI|CHU|KEAAE|OL|MAEM|NIN|PA|OO|O|RO|SHI|THEA|EA|WA|E|KO|LAN|LA|HAI|RI|TEK
16A60|MRO DIGIT |ZERO|ONE|TWO|THREE|FOUR|FIVE|SIX|SEVEN|EIGHT|NINE
16A6E|MRO D|ANDA|OUBLE DANDA
16A70|TANGSA LETTER |OZ|OC|OQ|OX|AZ|AC|AQ|AX|VZ|VC|VQ
16A7B|TANGSA LETTER |VX|EZ|EC|EQ|EX|IZ|IC|IQ|IX|UZ|UC|UQ|UX|AWZ|AWC|AWQ|AWX|UIZ|UIC|UIQ|UIX|FINAL NG|LONG UEX
16A92|TANGSA LETTER |SHORT UEZ|SHORT AWX|UEC|UEZ|UEQ|UEX|UIUZ|UIUC|UIUQ|UIUX|MZ|MC|MQ|MX|KA|KHA|GA|NGA|SA|YA
16AA6|TANGSA LETTER |WA|PA|NYA|PHA|BA|MA|NA|HA|LA|HTA|TA|DA|RA|NHA|SHA|CA|TSA|GHA|HTTA|THA|XA|FA|DHA|CHA|ZA
16AC0|TANGSA DIGIT |ZERO|ONE|TWO|THREE|FOUR|FIVE|SIX|SEVEN|EIGHT|NINE
16AD0|BASSA VAH LETTER |ENNI|KA|SE|FA|MBE
16AD5|BASSA VAH LETTER |YIE|GAH|DHII|KPAH|JO|HWAH|WA|ZO|GBU|DO|CE|UWU|TO|BA|VU|YEIN|PA|WADDA|A|O|OO|U|EE|E|I
16AF0|BASSA VAH COMBINING |HIGH TONE|LOW TONE|MID TONE|LOW-MID TONE|HIGH-LOW TONE
16AF5||BASSA VAH FULL STOP
16B00|PAHAWH HMONG VOWEL K|EEB|EEV|IB|IV|AUB
16B05|PAHAWH HMONG VOWEL K|AUV|UB|UV|EB|EV|AIB|AIV|OOB|OOV|AWB|AWV|UAB|UAV|OB|OV|IAB|IAV|AB|AV|WB|WV|AAB|AAV
16B1C|PAHAWH HMONG CONSONANT |VAU|NTSAU|LAU
16B1F|PAHAWH HMONG CONSONANT |HAU|NLAU|RAU|NKAU|QHAU|YAU|HLAU|MAU|CHAU|NCHAU|HNAU|PLHAU|NTHAU|NAU|AU|XAU|CAU
16B30|PAHAWH HMONG MARK CIM |TUB|SO|KES|KHAV|SUAM|HOM|TAUM
16B37|PAHAWH HMONG SIGN |VOS THOM|VOS TSHAB CEEB|CIM CHEEM|VOS THIAB|VOS FEEM|XYEEM NTXIV
16B3D|PAHAWH HMONG SIGN |XYEEM RHO|XYEEM TOV|XYEEM FAIB|VOS SEEV|MEEJ SUAB|VOS NRUA|IB YAM|XAUS|CIM TSOV ROG
16B50|PAHAWH HMONG DIGIT |ZERO|ONE|TWO|THREE|FOUR|FIVE|SIX|SEVEN|EIGHT|NINE
16B5B|PAHAWH HMONG NUMBER |TENS|HUNDREDS|TEN THOUSANDS|MILLIONS|HUNDRED MILLIONS|TEN BILLIONS|TRILLIONS
16B63|PAHAWH HMONG SIGN |VOS LUB|XYOO|HLI
16B66|PAHAWH HMONG SIGN |THIRD-STAGE HLI|ZWJ THAJ|HNUB|NQIG|XIAB|NTUJ|AV|TXHEEJ CEEV|MEEJ TSEEB|TAU|LOS|MUS
16B72|PAHAWH HMONG SIGN CIM |HAIS LUS NTOG NTOG|CUAM TSHOOJ|TXWV|TXWV CHWV|PUB DAWB|NRES TOS
16B7D|PAHAWH HMONG CLAN SIGN |TSHEEJ|YEEG
16B7F|PAHAWH HMONG CLAN SIGN |LIS|LAUJ|XYOOJ|KOO|HAWJ|MUAS|THOJ|TSAB|PHAB|KHAB|HAM|VAJ|FAJ|YAJ|TSWB|KWM|VWJ
16E40|MEDEFAIDRIN CAPITAL LETTER |M|S|V|W|ATIU|Z|KP|P|T|G|F|I|K|A|J|E|B|C|U|YU|L|Q|HP|NY|X|D|OE|N|R|O|AI|Y
16E60|MEDEFAIDRIN SMALL LETTER |M|S|V|W|ATIU|Z|KP|P|T|G|F|I|K|A|J|E|B|C|U|YU|L|Q|HP|NY|X|D|OE|N|R|O|AI|Y
16E80|MEDEFAIDRIN DIGIT |ZERO|ONE|TWO|THREE|FOUR|FIVE|SIX|SEVEN|EIGHT|NINE
16E8A|MEDEFAIDRIN NUMBER |TEN|ELEVEN|TWELVE|THIRTEEN|FOURTEEN|FIFTEEN|SIXTEEN|SEVENTEEN|EIGHTEEN|NINETEEN
16E94|MEDEFAIDRIN DIGIT |ONE ALTERNATE FORM|TWO ALTERNATE FORM|THREE ALTERNATE FORM
16E97|MEDEFAIDRIN |COMMA|FULL STOP|SYMBOL AIVA|EXCLAMATION OH
16F00|MIAO LETTER |PA|BA
16F02|MIAO LETTER |YI PA|PLA|MA|MHA|ARCHAIC MA|FA|VA|VFA|TA|DA|YI TTA|YI TA|TTA|DDA|NA|NHA|YI NNA|ARCHAIC NA
16F14|MIAO LETTER |NNA|NNHA|LA|LYA|LHA|LHYA|TLHA|DLHA|TLHYA|DLHYA|KA|GA|YI KA|QA|QGA|NGA|NGHA|ARCHAIC NGA
16F26|MIAO LETTER |HA|XA|GHA|GHHA|TSSA|DZZA|NYA|NYHA|TSHA|DZHA|YI TSHA|YI DZHA|REFORMED TSHA|SHA|SSA|ZHA|ZSHA
16F37|MIAO LETTER |TSA|DZA|YI TSA|SA|ZA|ZSA|ZZA|ZZSA|ARCHAIC ZZA|ZZYA|ZZSYA|WA|AH|HHA|BRI|SYI|DZYI|TE|TSE|RTE
16F4F|MIAO |SIGN CONSONANT MODIFIER BAR|LETTER NASALIZATION|SIGN ASPIRATION
16F52|MIAO SIGN REFORMED |VOICING|ASPIRATION
16F54|MIAO VOWEL SIGN A||A|HH|N|NG
16F59|MIAO VOWEL SIGN |O|OO|WO|W|E|EN|ENG|OEY|I|IA|IAN|IANG|IO|IE|II|IU|ING|U|UA|UAN|UANG|UU|UEI|UNG|Y|YI
16F73|MIAO VOWEL SIGN |AE|AEE|ERR|ROUNDED ERR|ER|ROUNDED ER|AI|EI|AU|OU|N|NG|UOG|YUI|OG|OER|VW|IG|EA|IONG|UI
16F8F|MIAO TONE |RIGHT|TOP RIGHT|ABOVE|BELOW
16F93|MIAO LETTER TONE-|2|3|4|5|6|7|8
16F9A|MIAO LETTER REFORMED TONE-|1|2|4|5|6|8
16FE0||TANGUT ITERATION MARK|NUSHU ITERATION MARK
16FE2|OLD CHINESE |HOOK MARK|ITERATION MARK
16FE4||KHITAN SMALL SCRIPT FILLER
16FF0|VIETNAMESE ALTERNATE READING MARK |CA|NHAY
18800|TANGUT COMPONENT-0|01|02|03|04|05|06|07|08|09|10|11|12|13|14|15
1880F|TANGUT COMPONENT-0|16|17|18|19|20|21|22|23|24|25|26|27|28|29|30|31|32|33|34|35|36|37|38|39|40|41|42|43
1882B|TANGUT COMPONENT-0|44|45|46|47|48|49|50|51|52|53|54|55|56|57|58|59|60|61|62|63|64|65|66|67|68|69|70|71
18847|TANGUT COMPONENT-0|72|73|74|75|76|77|78|79|80|81|82|83|84|85|86|87|88|89|90|91|92|93|94|95|96|97|98|99
18863|TANGUT COMPONENT-1|00|01|02|03|04|05|06|07|08|09|10|11|12|13|14|15
18873|TANGUT COMPONENT-1|16|17|18|19|20|21|22|23|24|25|26|27|28|29|30|31|32|33|34|35|36|37|38|39|40|41|42|43
1888F|TANGUT COMPONENT-1|44|45|46|47|48|49|50|51|52|53|54|55|56|57|58|59|60|61|62|63|64|65|66|67|68|69|70|71
188AB|TANGUT COMPONENT-1|72|73|74|75|76|77|78|79|80|81|82|83|84|85|86|87|88|89|90|91|92|93|94|95|96|97|98|99
188C7|TANGUT COMPONENT-2|00|01|02|03|04|05|06|07|08|09|10|11|12|13|14|15
188D7|TANGUT COMPONENT-2|16|17|18|19|20|21|22|23|24|25|26|27|28|29|30|31|32|33|34|35|36|37|38|39|40|41|42|43
188F3|TANGUT COMPONENT-2|44|45|46|47|48|49|50|51|52|53|54|55|56|57|58|59|60|61|62|63|64|65|66|67|68|69|70|71
1890F|TANGUT COMPONENT-2|72|73|74|75|76|77|78|79|80|81|82|83|84|85|86|87|88|89|90|91|92|93|94|95|96|97|98|99
1892B|TANGUT COMPONENT-3|00|01|02|03|04|05|06|07|08|09|10|11|12|13|14|15
1893B|TANGUT COMPONENT-3|16|17|18|19|20|21|22|23|24|25|26|27|28|29|30|31|32|33|34|35|36|37|38|39|40|41|42|43
18957|TANGUT COMPONENT-3|44|45|46|47|48|49|50|51|52|53|54|55|56|57|58|59|60|61|62|63|64|65|66|67|68|69|70|71
18973|TANGUT COMPONENT-3|72|73|74|75|76|77|78|79|80|81|82|83|84|85|86|87|88|89|90|91|92|93|94|95|96|97|98|99
1898F|TANGUT COMPONENT-4|00|01|02|03|04|05|06|07|08|09|10|11|12|13|14|15
1899F|TANGUT COMPONENT-4|16|17|18|19|20|21|22|23|24|25|26|27|28|29|30|31|32|33|34|35|36|37|38|39|40|41|42|43
189BB|TANGUT COMPONENT-4|44|45|46|47|48|49|50|51|52|53|54|55|56|57|58|59|60|61|62|63|64|65|66|67|68|69|70|71
189D7|TANGUT COMPONENT-4|72|73|74|75|76|77|78|79|80|81|82|83|84|85|86|87|88|89|90|91|92|93|94|95|96|97|98|99
189F3|TANGUT COMPONENT-5|00|01|02|03|04|05|06|07|08|09|10|11|12|13|14|15
18A03|TANGUT COMPONENT-5|16|17|18|19|20|21|22|23|24|25|26|27|28|29|30|31|32|33|34|35|36|37|38|39|40|41|42|43
18A1F|TANGUT COMPONENT-5|44|45|46|47|48|49|50|51|52|53|54|55|56|57|58|59|60|61|62|63|64|65|66|67|68|69|70|71
18A3B|TANGUT COMPONENT-5|72|73|74|75|76|77|78|79|80|81|82|83|84|85|86|87|88|89|90|91|92|93|94|95|96|97|98|99
18A57|TANGUT COMPONENT-6|00|01|02|03|04|05|06|07|08|09|10|11|12|13|14|15
18A67|TANGUT COMPONENT-6|16|17|18|19|20|21|22|23|24|25|26|27|28|29|30|31|32|33|34|35|36|37|38|39|40|41|42|43
18A83|TANGUT COMPONENT-6|44|45|46|47|48|49|50|51|52|53|54|55|56|57|58|59|60|61|62|63|64|65|66|67|68|69|70|71
18A9F|TANGUT COMPONENT-6|72|73|74|75|76|77|78|79|80|81|82|83|84|85|86|87|88|89|90|91|92|93|94|95|96|97|98|99
18ABB|TANGUT COMPONENT-7|00|01|02|03|04|05|06|07|08|09|10|11|12
18AC8|TANGUT COMPONENT-7|13|14|15|16|17|18|19|20|21|22|23|24|25|26|27|28|29|30|31|32|33|34|35|36|37|38|39|40
18AE4|TANGUT COMPONENT-7|41|42|43|44|45|46|47|48|49|50|51|52|53|54|55|56|57|58|59|60|61|62|63|64|65|66|67|68
18B00|KHITAN SMALL SCRIPT CHARACTER-18B0|0|1|2|3|4|5|6|7|8|9|A|B|C|D|E|F
18B10|KHITAN SMALL SCRIPT CHARACTER-18B1|0|1|2|3|4|5|6|7|8|9|A|B|C|D|E|F
18B20|KHITAN SMALL SCRIPT CHARACTER-18B2|0|1|2|3|4|5|6|7|8|9|A|B|C|D|E|F
18B30|KHITAN SMALL SCRIPT CHARACTER-18B3|0|1|2|3|4|5|6|7|8|9|A|B|C|D|E|F
18B40|KHITAN SMALL SCRIPT CHARACTER-18B4|0|1|2|3|4|5|6|7|8|9|A|B|C|D|E|F
18B50|KHITAN SMALL SCRIPT CHARACTER-18B5|0|1|2|3|4|5|6|7|8|9|A|B|C|D|E|F
18B60|KHITAN SMALL SCRIPT CHARACTER-18B6|0|1|2|3|4|5|6|7|8|9|A|B|C|D|E|F
18B70|KHITAN SMALL SCRIPT CHARACTER-18B7|0|1|2|3|4|5|6|7|8|9|A|B|C|D|E|F
18B80|KHITAN SMALL SCRIPT CHARACTER-18B8|0|1|2|3|4|5|6|7|8|9|A|B|C|D|E|F
18B90|KHITAN SMALL SCRIPT CHARACTER-18B9|0|1|2|3|4|5|6|7|8|9|A|B|C|D|E|F
18BA0|KHITAN SMALL SCRIPT CHARACTER-18BA|0|1|2|3|4|5|6|7|8|9|A|B|C|D|E|F
18BB0|KHITAN SMALL SCRIPT CHARACTER-18BB|0|1|2|3|4|5|6|7|8|9|A|B|C|D|E|F
18BC0|KHITAN SMALL SCRIPT CHARACTER-18BC|0|1|2|3|4|5|6|7|8|9|A|B|C|D|E|F
18BD0|KHITAN SMALL SCRIPT CHARACTER-18BD|0|1|2|3|4|5|6|7|8|9|A|B|C|D|E|F
18BE0|KHITAN SMALL SCRIPT CHARACTER-18BE|0|1|2|3|4|5|6|7|8|9|A|B|C|D|E|F
18BF0|KHITAN SMALL SCRIPT CHARACTER-18BF|0|1|2|3|4|5|6|7|8|9|A|B|C|D|E|F
18C00|KHITAN SMALL SCRIPT CHARACTER-18C0|0|1|2|3|4|5|6|7|8|9|A|B|C|D|E|F
18C10|KHITAN SMALL SCRIPT CHARACTER-18C1|0|1|2|3|4|5|6|7|8|9|A|B|C|D|E|F
18C20|KHITAN SMALL SCRIPT CHARACTER-18C2|0|1|2|3|4|5|6|7|8|9|A|B|C|D|E|F
18C30|KHITAN SMALL SCRIPT CHARACTER-18C3|0|1|2|3|4|5|6|7|8|9|A|B|C|D|E|F
18C40|KHITAN SMALL SCRIPT CHARACTER-18C4|0|1|2|3|4|5|6|7|8|9|A|B|C|D|E|F
18C50|KHITAN SMALL SCRIPT CHARACTER-18C5|0|1|2|3|4|5|6|7|8|9|A|B|C|D|E|F
18C60|KHITAN SMALL SCRIPT CHARACTER-18C6|0|1|2|3|4|5|6|7|8|9|A|B|C|D|E|F
18C70|KHITAN SMALL SCRIPT CHARACTER-18C7|0|1|2|3|4|5|6|7|8|9|A|B|C|D|E|F
18C80|KHITAN SMALL SCRIPT CHARACTER-18C8|0|1|2|3|4|5|6|7|8|9|A|B|C|D|E|F
18C90|KHITAN SMALL SCRIPT CHARACTER-18C9|0|1|2|3|4|5|6|7|8|9|A|B|C|D|E|F
18CA0|KHITAN SMALL SCRIPT CHARACTER-18CA|0|1|2|3|4|5|6|7|8|9|A|B|C|D|E|F
18CB0|KHITAN SMALL SCRIPT CHARACTER-18CB|0|1|2|3|4|5|6|7|8|9|A|B|C|D|E|F
18CC0|KHITAN SMALL SCRIPT CHARACTER-18C|C0|C1|C2|C3|C4|C5|C6|C7|C8|C9|CA|CB|CC|CD|CE|CF|D0|D1|D2|D3|D4|D5
1AFF0|KATAKANA LETTER MINNAN TONE-|2|3|4|5
1AFF5|KATAKANA LETTER MINNAN TONE-|7|8
1AFF7|KATAKANA LETTER MINNAN NASALIZED TONE-|1|2|3|4|5
1AFFD|KATAKANA LETTER MINNAN NASALIZED TONE-|7|8
1B000||KATAKANA LETTER ARCHAIC E|HIRAGANA LETTER ARCHAIC YE
1B002|HENTAIGANA LETTER |A-1|A-2|A-3|A-WO|I-1|I-2|I-3|I-4|U-1|U-2|U-3|U-4|U-5|E-2|E-3|E-4|E-5|E-6|O-1|O-2|O-3
1B017|HENTAIGANA LETTER KA-|1|2|3|4|5|6|7|8|9|10|11|KE
1B023|HENTAIGANA LETTER KI-|1|2|3|4|5|6|7|8
1B02B|HENTAIGANA LETTER K|U-1|U-2|U-3|U-4|U-5|U-6|U-7|E-1|E-2|E-3|E-4|E-5|E-6|O-1|O-2|O-3|O-KI
1B03C|HENTAIGANA LETTER S|A-1|A-2|A-3|A-4|A-5|A-6|A-7|A-8|I-1|I-2|I-3|I-4|I-5
1B049|HENTAIGANA LETTER S|I-6|U-1|U-2|U-3|U-4|U-5|U-6|U-7|U-8|E-1|E-2|E-3|E-4|E-5|O-1|O-2|O-3|O-4|O-5|O-6|O-7
1B05E|HENTAIGANA LETTER T|A-1|A-2|A-3|A-4|I-1|I-2|I-3|I-4|I-5|I-6|I-7|U-1|U-2|U-3|U-4|U-TO
1B06E|HENTAIGANA LETTER TE-|1|2|3|4|5|6|7|8|9
1B077|HENTAIGANA LETTER TO-|1|2|3|4|5|6|RA
1B07E|HENTAIGANA LETTER NA-|1|2|3|4|5|6|7|8|9
1B087|HENTAIGANA LETTER NI-|1|2|3|4|5|6|7|TE
1B08F|HENTAIGANA LETTER N|U-1|U-2|U-3|E-1|E-2|E-3|E-4|E-5|E-6|E-KO|O-1|O-2|O-3|O-4|O-5
1B09E|HENTAIGANA LETTER HA-|1|2|3|4|5|6|7|8|9|10|11
1B0A9|HENTAIGANA LETTER H|I-1|I-2|I-3|I-4|I-5|I-6|I-7|U-1|U-2|U-3|E-1|E-2|E-3|E-4|E-5|E-6|E-7
1B0BA|HENTAIGANA LETTER HO-|1|2|3|4|5|6|7|8
1B0C2|HENTAIGANA LETTER MA-|1|2|3|4|5|6|7
1B0C9|HENTAIGANA LETTER M|I-1|I-2|I-3|I-4|I-5|I-6|I-7|U-1|U-2|U-3|U-4|E-1|E-2|E-MA|O-1|O-2|O-3|O-4|O-5|O-6
1B0DD|HENTAIGANA LETTER Y|A-1|A-2|A-3|A-4|A-5|A-YO|U-1|U-2|U-3|U-4|O-1|O-2|O-3|O-4|O-5|O-6
1B0ED|HENTAIGANA LETTER R|A-1|A-2|A-3|A-4|I-1|I-2|I-3|I-4|I-5|I-6|I-7|U-1|U-2|U-3|U-4|U-5|U-6|E-1|E-2|E-3|E-4
1B102|HENTAIGANA LETTER RO-|1|2|3|4|5|6
1B108|HENTAIGANA LETTER W|A-1|A-2|A-3|A-4|A-5|I-1|I-2|I-3|I-4|I-5|E-1|E-2|E-3|E-4|O-1|O-2|O-3|O-4|O-5|O-6|O-7
1B11D|HENTAIGANA LETTER N-MU-MO-|1|2
1B11F||HIRAGANA LETTER ARCHAIC WU
1B120|KATAKANA LETTER ARCHAIC |YI|YE|WU
1B150|HIRAGANA LETTER SMALL W|I|E|O
1B164|KATAKANA LETTER SMALL |WI|WE|WO|N
1B170|NUSHU CHARACTER-1B17|0|1|2|3|4|5|6|7|8|9|A|B|C|D|E|F
1B180|NUSHU CHARACTER-1B18|0|1|2|3|4|5|6|7|8|9|A|B|C|D|E|F
1B190|NUSHU CHARACTER-1B19|0|1|2|3|4|5|6|7|8|9|A|B|C|D|E|F
1B1A0|NUSHU CHARACTER-1B1A|0|1|2|3|4|5|6|7|8|9|A|B|C|D|E|F
1B1B0|NUSHU CHARACTER-1B1B|0|1|2|3|4|5|6|7|8|9|A|B|C|D|E|F
1B1C0|NUSHU CHARACTER-1B1C|0|1|2|3|4|5|6|7|8|9|A|B|C|D|E|F
1B1D0|NUSHU CHARACTER-1B1D|0|1|2|3|4|5|6|7|8|9|A|B|C|D|E|F
1B1E0|NUSHU CHARACTER-1B1E|0|1|2|3|4|5|6|7|8|9|A|B|C|D|E|F
1B1F0|NUSHU CHARACTER-1B1F|0|1|2|3|4|5|6|7|8|9|A|B|C|D|E|F
1B200|NUSHU CHARACTER-1B20|0|1|2|3|4|5|6|7|8|9|A|B|C|D|E|F
1B210|NUSHU CHARACTER-1B21|0|1|2|3|4|5|6|7|8|9|A|B|C|D|E|F
1B220|NUSHU CHARACTER-1B22|0|1|2|3|4|5|6|7|8|9|A|B|C|D|E|F
1B230|NUSHU CHARACTER-1B23|0|1|2|3|4|5|6|7|8|9|A|B|C|D|E|F
1B240|NUSHU CHARACTER-1B24|0|1|2|3|4|5|6|7|8|9|A|B|C|D|E|F
1B250|NUSHU CHARACTER-1B25|0|1|2|3|4|5|6|7|8|9|A|B|C|D|E|F
1B260|NUSHU CHARACTER-1B26|0|1|2|3|4|5|6|7|8|9|A|B|C|D|E|F
1B270|NUSHU CHARACTER-1B27|0|1|2|3|4|5|6|7|8|9|A|B|C|D|E|F
1B280|NUSHU CHARACTER-1B28|0|1|2|3|4|5|6|7|8|9|A|B|C|D|E|F
1B290|NUSHU CHARACTER-1B29|0|1|2|3|4|5|6|7|8|9|A|B|C|D|E|F
1B2A0|NUSHU CHARACTER-1B2A|0|1|2|3|4|5|6|7|8|9|A|B|C|D|E|F
1B2B0|NUSHU CHARACTER-1B2B|0|1|2|3|4|5|6|7|8|9|A|B|C|D|E|F
1B2C0|NUSHU CHARACTER-1B2C|0|1|2|3|4|5|6|7|8|9|A|B|C|D|E|F
1B2D0|NUSHU CHARACTER-1B2D|0|1|2|3|4|5|6|7|8|9|A|B|C|D|E|F
1B2E0|NUSHU CHARACTER-1B2|E0|E1|E2|E3|E4|E5|E6|E7|E8|E9|EA|EB|EC|ED|EE|EF|F0|F1|F2|F3|F4|F5|F6|F7|F8|F9|FA|FB
1BC00|DUPLOYAN LETTER |H|X|P|T|F|K|L|B|D|V|G|R|P N|D S|F N|K M|R S|TH|SLOAN DH|DH|KK|SLOAN J|HL|LH|RH
1BC19|DUPLOYAN LETTER |M|N|J|S|M N|N M|J M|S J|M WITH DOT|N WITH DOT|J WITH DOT|J WITH DOTS INSIDE AND ABOVE
1BC25|DUPLOYAN LETTER |S WITH DOT|S WITH DOT BELOW|M S|N S|J S|S S|M N S|N M S|J M S
1BC2E|DUPLOYAN LETTER |S J S|J S WITH DOT|J N|J N S|S T|S T R|S P|S P R|T S|T R S|W|WH|W R|S N|S M|K R S
1BC3E|DUPLOYAN LETTER |G R S|S K|S K R|A|SLOAN OW|OA|O|AOU|I|E|IE|SHORT I|UI|EE|SLOAN EH|ROMANIAN I|SLOAN EE
1BC4F|DUPLOYAN LETTER |LONG I|YE|U|EU|XW|U N|LONG U|ROMANIAN U|UH|SLOAN U|OOH|OW|OU|WA|WO|WI|WEI|WOW|NASAL U
1BC62|DUPLOYAN LETTER |NASAL O|NASAL I|NASAL A|PERNIN AN|PERNIN AM|SLOAN EN|SLOAN AN|SLOAN ON|VOCALIC M
1BC70|DUPLOYAN AFFIX |LEFT HORIZONTAL SECANT|MID HORIZONTAL SECANT
1BC72|DUPLOYAN AFFIX |RIGHT HORIZONTAL SECANT|LOW VERTICAL SECANT|MID VERTICAL SECANT|HIGH VERTICAL SECANT
1BC76|DUPLOYAN AFFIX ATTACHED |SECANT|LEFT-TO-RIGHT SECANT|TANGENT|TAIL|E HOOK|I HOOK|TANGENT HOOK
1BC80|DUPLOYAN AFFIX HIGH |ACUTE|TIGHT ACUTE|GRAVE|LONG GRAVE|DOT|CIRCLE|LINE|WAVE|VERTICAL
1BC90|DUPLOYAN AFFIX LOW |ACUTE|TIGHT ACUTE|GRAVE|LONG GRAVE|DOT|CIRCLE|LINE|WAVE|VERTICAL|ARROW
1BC9C|DUPLOYAN |SIGN O WITH CROSS|THICK LETTER SELECTOR|DOUBLE MARK|PUNCTUATION CHINOOK FULL STOP
1BCA0|SHORTHAND FORMAT |LETTER OVERLAP|CONTINUING OVERLAP|DOWN STEP|UP STEP
1CF00||ZNAMENNY COMBINING MARK GORAZDO NIZKO S KRYZHEM ON LEFT
1CF01|ZNAMENNY COMBINING MARK |NIZKO S KRYZHEM ON LEFT|TSATA ON LEFT|GORAZDO NIZKO ON LEFT
1CF04|ZNAMENNY COMBINING MARK |NIZKO ON LEFT|SREDNE ON LEFT|MALO POVYSHE ON LEFT|POVYSHE ON LEFT
1CF08|ZNAMENNY COMBINING MARK |VYSOKO ON LEFT|MALO POVYSHE S KHOKHLOM ON LEFT|POVYSHE S KHOKHLOM ON LEFT
1CF0B|ZNAMENNY COMBINING MARK |VYSOKO S KHOKHLOM ON LEFT|GORAZDO NIZKO S KRYZHEM ON RIGHT
1CF0D|ZNAMENNY COMBINING MARK |NIZKO S KRYZHEM ON RIGHT|TSATA ON RIGHT|GORAZDO NIZKO ON RIGHT
1CF10|ZNAMENNY COMBINING MARK |NIZKO ON RIGHT|SREDNE ON RIGHT|MALO POVYSHE ON RIGHT|POVYSHE ON RIGHT
1CF14|ZNAMENNY COMBINING MARK |VYSOKO ON RIGHT|MALO POVYSHE S KHOKHLOM ON RIGHT|POVYSHE S KHOKHLOM ON RIGHT
1CF17|ZNAMENNY COMBINING MARK |VYSOKO S KHOKHLOM ON RIGHT|TSATA S KRYZHEM|MALO POVYSHE S KRYZHEM
1CF1A|ZNAMENNY COMBINING MARK |STRANNO MALO POVYSHE|POVYSHE S KRYZHEM|POVYSHE STRANNO|VYSOKO S KRYZHEM
1CF1E|ZNAMENNY COMBINING MARK |MALO POVYSHE STRANNO|GORAZDO VYSOKO|ZELO|ON|RAVNO|TIKHAYA|BORZAYA
1CF25|ZNAMENNY COMBINING MARK |UDARKA|PODVERTKA|LOMKA|KUPNAYA|KACHKA|ZEVOK|SKOBA|RAZSEKA|KRYZH ON LEFT
1CF30|ZNAMENNY COMBINING TONAL RANGE MARK |MRACHNO|SVETLO|TRESVETLO
1CF33|ZNAMENNY COMBINING MARK |ZADERZHKA|DEMESTVENNY ZADERZHKA|OTSECHKA
1CF36|ZNAMENNY COMBINING MARK PODCHASHIE|| WITH VERTICAL STROKE
1CF38|ZNAMENNY COMBINING MARK |CHASHKA|CHASHKA POLNAYA|OBLACHKO|SOROCHYA NOZHKA|TOCHKA|DVOETOCHIE
1CF3E|ZNAMENNY COMBINING |ATTACHING VERTICAL OMET|MARK CURVED OMET|MARK KRYZH|LOWER TONAL RANGE INDICATOR
1CF42|ZNAMENNY PRIZNAK MODIFIER |LEVEL-2|LEVEL-3|DIRECTION FLIP|KRYZH|ROG
1CF50|ZNAMENNY NEUME |KRYUK|KRYUK TIKHY|PARAKLIT|DVA V CHELNU|KLYUCH|ZANOZHEK|STOPITSA|STOPITSA S OCHKOM
1CF58|ZNAMENNY NEUME PEREVODKA|| NEPOSTOYANNAYA
1CF5A|ZNAMENNY NEUME |STOPITSA WITH SOROCHYA NOZHKA|CHELYUSTKA|PALKA|ZAPYATAYA
1CF5E|ZNAMENNY NEUME GOLUBCHIK |BORZY|TIKHY|MRACHNY|SVETLY|TRESVETLY
1CF63|ZNAMENNY NEUME VRAKHIYA |PROSTAYA|MRACHNAYA|SVETLAYA|TRESVETLAYA
1CF67|ZNAMENNY NEUME VRAKHIYA KLYUCHEVAYA |PROSTAYA|MRACHNAYA|SVETLAYA|TRESVETLAYA
1CF6B|ZNAMENNY NEUME |DOUBLE ZAPYATAYA|REVERSED CHELYUSTKA|DERBITSA|KHAMILO|CHASHKA|PODCHASHIE
1CF71|ZNAMENNY NEUME SKAMEYTSA |MRACHNAYA|SVETLAYA|TRESVETLAYA|TIKHAYA
1CF75||ZNAMENNY NEUME DEMESTVENNY KLYUCH
1CF76|ZNAMENNY NEUME SKAMEYTSA KLYUCHE|VAYA SVETLAYA|NEPOSTOYANNAYA|VAYA TIKHAYA
1CF79|ZNAMENNY NEUME SKAMEYTSA DVOECHELNAYA |PROSTAYA|SVETLAYA|NEPOSTOYANNAYA|KLYUCHEVAYA
1CF7D|ZNAMENNY NEUME SLOZHITIE|| S ZAPYATOY| ZAKRYTOE| S KRYZHEM
1CF81|ZNAMENNY NEUME |KRYZH|ROG|FITA|KOBYLA|ZMEYTSA
1CF86|ZNAMENNY NEUME STATYA|| S ZAPYATOY| S KRYZHEM| S ZAPYATOY I KRYZHEM| S KRYZHEM I ZAPYATOY| ZAKRYTAYA
1CF8C|ZNAMENNY NEUME STATYA |ZAKRYTAYA S ZAPYATOY|S ROGOM|S DVUMYA ZAPYATYMI|S ZAPYATOY I PODCHASHIEM
1CF90|ZNAMENNY NEUME |POLKULIZMY|STATYA NEPOSTOYANNAYA
1CF92|ZNAMENNY NEUME STRELA |PROSTAYA|MRACHNOTIKHAYA|KRYZHEVAYA|POLUPOVODNAYA
1CF96|ZNAMENNY NEUME STRELA |POVODNAYA|NEPOSTOYANNAYA|KLYUCHEPOVODNAYA|KLYUCHENEPOSTOYANNAYA|TIKHAYA PUTNAYA
1CF9B|ZNAMENNY NEUME STRELA DVOECHELN|AYA|OKRYZHEVAYA|OPOVODNAYA|AYA KLYUCHEVAYA|OPOVODNAYA KLYUCHEVAYA
1CFA0|ZNAMENNY NEUME STRELA GROM|NAYA WITH SINGLE ZAPYATAYA|OPOVODNAYA WITH SINGLE ZAPYATAYA|NAYA
1CFA3|ZNAMENNY NEUME STRELA GROMO|POVODNAYA|POVODNAYA WITH DOUBLE ZAPYATAYA|KRYZHEVAYA|KRYZHEVAYA POVODNAYA
1CFA7|ZNAMENNY NEUME MECHIK|| POVODNY| KLYUCHEVOY| KLYUCHEPOVODNY| KLYUCHENEPOSTOYANNY
1CFAC|ZNAMENNY NEUME STRELA TRYASO|GLASNAYA|POVODNAYA|STRELNAYA
1CFAF|ZNAMENNY NEUME OSOKA|| SVETLAYA| TRESVETLAYA| KRYUKOVAYA SVETLAYA
1CFB3|ZNAMENNY NEUME OSOKA KLYUCHEVAYA |SVETLAYA|NEPOSTOYANNAYA
1CFB5|ZNAMENNY NEUME STRELA KRYUKOVAYA|| POVODNAYA| GROMNAYA WITH SINGLE ZAPYATAYA
1CFB8|ZNAMENNY NEUME STRELA KRYUKOVAYA GROM|OPOVODNAYA WITH SINGLE ZAPYATAYA|NAYA|OPOVODNAYA
1CFBB|ZNAMENNY NEUME STRELA KRYUKOVAYA GROMO|POVODNAYA WITH DOUBLE ZAPYATAYA|KRYZHEVAYA|KRYZHEVAYA POVODNAYA
1CFBE|ZNAMENNY NEUME |STRELA KRYUKOVAYA TRYASKA|KUFISMA|OBLAKO|DUDA|NEMKA|PAUK"

end GraphGateway.Text.CharacterName
