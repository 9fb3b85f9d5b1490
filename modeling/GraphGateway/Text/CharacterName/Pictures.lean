/-!
# Character names, U+1D000 to U+10FFFF

Each line names consecutive code points: the first of them, what their names begin with, and how each
name goes on.
-/

namespace GraphGateway.Text.CharacterName

/-- The names of the characters from U+1D000 to U+10FFFF. -/
def pictures : String :=
"1D000|BYZANTINE MUSICAL SYMBOL |PSILI|DASEIA|PERISPOMENI|OXEIA EKFONITIKON|OXEIA DIPLI
1D005|BYZANTINE MUSICAL SYMBOL |VAREIA EKFONITIKON|VAREIA DIPLI|KATHISTI|SYRMATIKI|PARAKLITIKI|YPOKRISIS
1D00B|BYZANTINE MUSICAL SYMBOL |YPOKRISIS DIPLI|KREMASTI|APESO EKFONITIKON|EXO EKFONITIKON|TELEIA|KENTIMATA
1D011|BYZANTINE MUSICAL SYMBOL |APOSTROFOS|APOSTROFOS DIPLI|SYNEVMA|THITA|OLIGON ARCHAION|GORGON ARCHAION
1D017|BYZANTINE MUSICAL SYMBOL |PSILON|CHAMILON|VATHY|ISON ARCHAION|KENTIMA ARCHAION|KENTIMATA ARCHAION
1D01D|BYZANTINE MUSICAL SYMBOL |SAXIMATA|PARICHON|STAVROS APODEXIA|OXEIAI ARCHAION|VAREIAI ARCHAION
1D022|BYZANTINE MUSICAL SYMBOL |APODERMA ARCHAION|APOTHEMA|KLASMA|REVMA|PIASMA ARCHAION|TINAGMA
1D028|BYZANTINE MUSICAL SYMBOL |ANATRICHISMA|SEISMA|SYNAGMA ARCHAION|SYNAGMA META STAVROU|OYRANISMA ARCHAION
1D02D|BYZANTINE MUSICAL SYMBOL |THEMA|LEMOI|DYO|TRIA|TESSERA|KRATIMATA|APESO EXO NEO|FTHORA ARCHAION
1D035|BYZANTINE MUSICAL SYMBOL |IMIFTHORA|TROMIKON ARCHAION|KATAVA TROMIKON|PELASTON|PSIFISTON|KONTEVMA
1D03B|BYZANTINE MUSICAL SYMBOL |CHOREVMA ARCHAION|RAPISMA|PARAKALESMA ARCHAION|PARAKLITIKI ARCHAION|ICHADIN
1D040|BYZANTINE MUSICAL SYMBOL |NANA|PETASMA|KONTEVMA ALLO|TROMIKON ALLO|STRAGGISMATA|GRONTHISMATA|ISON NEO
1D047|BYZANTINE MUSICAL SYMBOL |OLIGON NEO|OXEIA NEO|PETASTI|KOUFISMA|PETASTOKOUFISMA|KRATIMOKOUFISMA
1D04D|BYZANTINE MUSICAL SYMBOL |PELASTON NEO|KENTIMATA NEO ANO|KENTIMA NEO ANO|YPSILI|APOSTROFOS NEO
1D052|BYZANTINE MUSICAL SYMBOL |APOSTROFOI SYNDESMOS NEO|YPORROI|KRATIMOYPORROON|ELAFRON|CHAMILI
1D057|BYZANTINE MUSICAL SYMBOL |MIKRON ISON|VAREIA NEO|PIASMA NEO|PSIFISTON NEO|OMALON|ANTIKENOMA|LYGISMA
1D05E|BYZANTINE MUSICAL SYMBOL |PARAKLITIKI NEO|PARAKALESMA NEO|ETERON PARAKALESMA|KYLISMA|ANTIKENOKYLISMA
1D063|BYZANTINE MUSICAL SYMBOL |TROMIKON NEO|EKSTREPTON|SYNAGMA NEO|SYRMA|CHOREVMA NEO|EPEGERMA
1D069|BYZANTINE MUSICAL SYMBOL |SEISMA NEO|XIRON KLASMA|TROMIKOPSIFISTON|PSIFISTOLYGISMA|TROMIKOLYGISMA
1D06E|BYZANTINE MUSICAL SYMBOL |TROMIKOPARAKALESMA|PSIFISTOPARAKALESMA|TROMIKOSYNAGMA|PSIFISTOSYNAGMA
1D072|BYZANTINE MUSICAL SYMBOL |GORGOSYNTHETON|ARGOSYNTHETON|ETERON ARGOSYNTHETON|OYRANISMA NEO
1D076|BYZANTINE MUSICAL SYMBOL THE|MATISMOS ESO|MATISMOS EXO|MA APLOUN|S KAI APOTHES
1D07A|BYZANTINE MUSICAL SYMBOL |KATAVASMA|ENDOFONON|YFEN KATO|YFEN ANO|STAVROS|KLASMA ANO|DIPLI ARCHAION
1D081|BYZANTINE MUSICAL SYMBOL KRATIMA |ARCHAION|ALLO|NEO
1D084|BYZANTINE MUSICAL SYMBOL |APODERMA NEO|APLI|DIPLI|TRIPLI|TETRAPLI|KORONIS|LEIMMA ENOS CHRONOU
1D08B|BYZANTINE MUSICAL SYMBOL LEIMMA |DYO CHRONON|TRION CHRONON|TESSARON CHRONON|IMISEOS CHRONOU
1D08F|BYZANTINE MUSICAL SYMBOL GORGON |NEO ANO|PARESTIGMENON ARISTERA|PARESTIGMENON DEXIA
1D092|BYZANTINE MUSICAL SYMBOL DIGORGON|| PARESTIGMENON ARISTERA KATO| PARESTIGMENON ARISTERA ANO
1D095|BYZANTINE MUSICAL SYMBOL |DIGORGON PARESTIGMENON DEXIA|TRIGORGON|ARGON|IMIDIARGON|DIARGON
1D09A|BYZANTINE MUSICAL SYMBOL AGOGI |POLI ARGI|ARGOTERI|ARGI|METRIA|MESI|GORGI|GORGOTERI|POLI GORGI
1D0A2|BYZANTINE MUSICAL SYMBOL MARTYRIA |PROTOS ICHOS|ALLI PROTOS ICHOS|DEYTEROS ICHOS|ALLI DEYTEROS ICHOS
1D0A6|BYZANTINE MUSICAL SYMBOL MARTYRIA TRI|TOS ICHOS|FONIAS
1D0A8|BYZANTINE MUSICAL SYMBOL MARTYRIA |TETARTOS ICHOS|TETARTOS LEGETOS ICHOS|LEGETOS ICHOS|PLAGIOS ICHOS
1D0AC|BYZANTINE MUSICAL SYMBOL |ISAKIA TELOUS ICHIMATOS|APOSTROFOI TELOUS ICHIMATOS
1D0AE|BYZANTINE MUSICAL SYMBOL FANEROSIS |TETRAFONIAS|MONOFONIAS|DIFONIAS
1D0B1|BYZANTINE MUSICAL SYMBOL MARTYRIA |VARYS ICHOS|PROTOVARYS ICHOS|PLAGIOS TETARTOS ICHOS
1D0B4|BYZANTINE MUSICAL SYMBOL |GORTHMIKON N APLOUN|GORTHMIKON N DIPLOUN|ENARXIS KAI FTHORA VOU
1D0B7|BYZANTINE MUSICAL SYMBOL |IMIFONON|IMIFTHORON|FTHORA ARCHAION DEYTEROU ICHOU|FTHORA DIATONIKI PA
1D0BB|BYZANTINE MUSICAL SYMBOL FTHORA |DIATONIKI NANA|NAOS ICHOS|DIATONIKI DI|SKLIRON DIATONON DI
1D0BF|BYZANTINE MUSICAL SYMBOL FTHORA DIATONIKI |KE|ZO|NI KATO|NI ANO
1D0C3|BYZANTINE MUSICAL SYMBOL FTHORA MALAKON CHROMA |DIFONIAS|MONOFONIAS
1D0C5|BYZANTINE MUSICAL SYMBOL F|HTORA SKLIRON CHROMA VASIS|THORA SKLIRON CHROMA SYNAFI|THORA NENANO
1D0C8|BYZANTINE MUSICAL SYMBOL |CHROA ZYGOS|CHROA KLITON|CHROA SPATHI|FTHORA I YFESIS TETARTIMORION
1D0CC|BYZANTINE MUSICAL SYMBOL |FTHORA ENARMONIOS ANTIFONIA|YFESIS TRITIMORION|DIESIS TRITIMORION
1D0CF|BYZANTINE MUSICAL SYMBOL DIESIS |TETARTIMORION|APLI DYO DODEKATA|MONOGRAMMOS TESSERA DODEKATA
1D0D2|BYZANTINE MUSICAL SYMBOL DIESIS |DIGRAMMOS EX DODEKATA|TRIGRAMMOS OKTO DODEKATA
1D0D4|BYZANTINE MUSICAL SYMBOL YFESIS |APLI DYO DODEKATA|MONOGRAMMOS TESSERA DODEKATA|DIGRAMMOS EX DODEKATA
1D0D7|BYZANTINE MUSICAL SYMBOL |YFESIS TRIGRAMMOS OKTO DODEKATA|GENIKI DIESIS|GENIKI YFESIS
1D0DA|BYZANTINE MUSICAL SYMBOL DIASTOLI |APLI MIKRI|APLI MEGALI|DIPLI|THESEOS
1D0DE|BYZANTINE MUSICAL SYMBOL SIMANSIS THESEOS|| DISIMOU| TRISIMOU| TETRASIMOU
1D0E2|BYZANTINE MUSICAL SYMBOL SIMANSIS ARSEOS|| DISIMOU| TRISIMOU| TETRASIMOU
1D0E6|BYZANTINE MUSICAL SYMBOL |DIGRAMMA GG|DIFTOGGOS OU|STIGMA
1D0E9|BYZANTINE MUSICAL SYMBOL ARKTIKO |PA|VOU|GA|DI|KE|ZO|NI
1D0F0|BYZANTINE MUSICAL SYMBOL KENTIMA|TA NEO MESO| NEO MESO|TA NEO KATO| NEO KATO
1D0F4|BYZANTINE MUSICAL SYMBOL |KLASMA KATO|GORGON NEO KATO
1D100||MUSICAL SYMBOL SINGLE BARLINE
1D101|MUSICAL SYMBOL |DOUBLE BARLINE|FINAL BARLINE|REVERSE FINAL BARLINE|DASHED BARLINE|SHORT BARLINE
1D106|MUSICAL SYMBOL |LEFT REPEAT SIGN|RIGHT REPEAT SIGN|REPEAT DOTS|DAL SEGNO|DA CAPO|SEGNO|CODA
1D10D|MUSICAL SYMBOL REPEATED FIGURE-|1|2|3
1D110|MUSICAL SYMBOL |FERMATA|FERMATA BELOW|BREATH MARK|CAESURA|BRACE|BRACKET|ONE-LINE STAFF|TWO-LINE STAFF
1D118|MUSICAL SYMBOL |THREE-LINE STAFF|FOUR-LINE STAFF|FIVE-LINE STAFF|SIX-LINE STAFF|SIX-STRING FRETBOARD
1D11D|MUSICAL SYMBOL |FOUR-STRING FRETBOARD|G CLEF|G CLEF OTTAVA ALTA|G CLEF OTTAVA BASSA|C CLEF|F CLEF
1D123|MUSICAL SYMBOL F CLEF OTTAVA |ALTA|BASSA
1D125|MUSICAL SYMBOL DRUM CLEF-|1|2
1D129|MUSICAL SYMBOL |MULTIPLE MEASURE REST|DOUBLE SHARP|DOUBLE FLAT|FLAT UP|FLAT DOWN
1D12E|MUSICAL SYMBOL NATURAL |UP|DOWN
1D130|MUSICAL SYMBOL |SHARP UP|SHARP DOWN|QUARTER TONE SHARP|QUARTER TONE FLAT|COMMON TIME|CUT TIME
1D136|MUSICAL SYMBOL |OTTAVA ALTA|OTTAVA BASSA|QUINDICESIMA ALTA|QUINDICESIMA BASSA|MULTI REST|WHOLE REST
1D13C|MUSICAL SYMBOL |HALF REST|QUARTER REST|EIGHTH REST|SIXTEENTH REST|THIRTY-SECOND REST|SIXTY-FOURTH REST
1D142|MUSICAL SYMBOL |ONE HUNDRED TWENTY-EIGHTH REST|X NOTEHEAD|PLUS NOTEHEAD|CIRCLE X NOTEHEAD
1D146|MUSICAL SYMBOL SQUARE NOTEHEAD |WHITE|BLACK
1D148|MUSICAL SYMBOL TRIANGLE NOTEHEAD |UP WHITE|UP BLACK|LEFT WHITE|LEFT BLACK|RIGHT WHITE
1D14D|MUSICAL SYMBOL TRIANGLE NOTEHEAD |RIGHT BLACK|DOWN WHITE|DOWN BLACK|UP RIGHT WHITE|UP RIGHT BLACK
1D152|MUSICAL SYMBOL MOON NOTEHEAD |WHITE|BLACK
1D154|MUSICAL SYMBOL TRIANGLE-ROUND NOTEHEAD DOWN |WHITE|BLACK
1D156|MUSICAL SYMBOL |PARENTHESIS NOTEHEAD|VOID NOTEHEAD|NOTEHEAD BLACK|NULL NOTEHEAD|CLUSTER NOTEHEAD WHITE
1D15B|MUSICAL SYMBOL |CLUSTER NOTEHEAD BLACK|BREVE|WHOLE NOTE|HALF NOTE|QUARTER NOTE|EIGHTH NOTE
1D161|MUSICAL SYMBOL |SIXTEENTH NOTE|THIRTY-SECOND NOTE|SIXTY-FOURTH NOTE|ONE HUNDRED TWENTY-EIGHTH NOTE
1D165|MUSICAL SYMBOL COMBINING |STEM|SPRECHGESANG STEM|TREMOLO-1|TREMOLO-2|TREMOLO-3
1D16A|MUSICAL SYMBOL FINGERED TREMOLO-|1|2|3
1D16D|MUSICAL SYMBOL COMBINING |AUGMENTATION DOT|FLAG-1|FLAG-2|FLAG-3|FLAG-4|FLAG-5
1D173|MUSICAL SYMBOL |BEGIN BEAM|END BEAM|BEGIN TIE|END TIE|BEGIN SLUR|END SLUR|BEGIN PHRASE|END PHRASE
1D17B|MUSICAL SYMBOL COMBINING |ACCENT|STACCATO|TENUTO|STACCATISSIMO|MARCATO|MARCATO-STACCATO|ACCENT-STACCATO
1D182|MUSICAL SYMBOL |COMBINING LOURE|ARPEGGIATO UP|ARPEGGIATO DOWN
1D185|MUSICAL SYMBOL COMBINING |DOIT|RIP|FLIP|SMEAR|BEND|DOUBLE TONGUE|TRIPLE TONGUE
1D18C|MUSICAL SYMBOL |RINFORZANDO|SUBITO|Z|PIANO|MEZZO|FORTE|CRESCENDO|DECRESCENDO
1D194|MUSICAL SYMBOL |GRACE NOTE SLASH|GRACE NOTE NO SLASH|TR|TURN|INVERTED TURN|TURN SLASH|TURN UP
1D19B|MUSICAL SYMBOL ORNAMENT STROKE-|1|2|3|4|5|6|7|8|9|10|11
1D1A6|MUSICAL SYMBOL |HAUPTSTIMME|NEBENSTIMME|END OF STIMME|DEGREE SLASH
1D1AA|MUSICAL SYMBOL COMBINING |DOWN BOW|UP BOW|HARMONIC|SNAP PIZZICATO
1D1AE|MUSICAL SYMBOL |PEDAL MARK|PEDAL UP MARK|HALF PEDAL MARK|GLISSANDO UP|GLISSANDO DOWN|WITH FINGERNAILS
1D1B4|MUSICAL SYMBOL |DAMP|DAMP ALL|MAXIMA|LONGA|BREVIS|SEMIBREVIS WHITE|SEMIBREVIS BLACK|MINIMA|MINIMA BLACK
1D1BD|MUSICAL SYMBOL |SEMIMINIMA WHITE|SEMIMINIMA BLACK|FUSA WHITE|FUSA BLACK|LONGA PERFECTA REST
1D1C2|MUSICAL SYMBOL |LONGA IMPERFECTA REST|BREVIS REST|SEMIBREVIS REST|MINIMA REST|SEMIMINIMA REST
1D1C7|MUSICAL SYMBOL TEMPUS PERFECTUM CUM PROLATIONE |PERFECTA|IMPERFECTA|PERFECTA DIMINUTION-1
1D1CA|MUSICAL SYMBOL TEMPUS IMPERFECTUM CUM PROLATIONE |PERFECTA|IMPERFECTA
1D1CC|MUSICAL SYMBOL TEMPUS IMPERFECTUM CUM PROLATIONE IMPERFECTA DIMINUTION-|1|2|3
1D1CF||MUSICAL SYMBOL CROIX
1D1D0|MUSICAL SYMBOL |GREGORIAN C CLEF|GREGORIAN F CLEF|SQUARE B|VIRGA|PODATUS|CLIVIS|SCANDICUS|CLIMACUS
1D1D8|MUSICAL SYMBOL |TORCULUS|PORRECTUS|PORRECTUS FLEXUS|SCANDICUS FLEXUS|TORCULUS RESUPINUS|PES SUBPUNCTIS
1D1DE|MUSICAL SYMBOL KIEVAN |C CLEF|END OF PIECE|FINAL NOTE|RECITATIVE MARK|WHOLE NOTE|HALF NOTE
1D1E4|MUSICAL SYMBOL KIEVAN QUARTER NOTE STEM |DOWN|UP
1D1E6|MUSICAL SYMBOL KIEVAN EIGHTH NOTE STEM |DOWN|UP
1D1E8|MUSICAL SYMBOL |KIEVAN FLAT SIGN|SORI|KORON
1D200|GREEK VOCAL NOTATION SYMBOL-|1|2|3|4|5|6|7|8|9|10|11|12|13|14|15|16|17|18|19|20|21|22|23|24
1D218|GREEK VOCAL NOTATION SYMBOL-5|0|1|2|3|4
1D21D|GREEK INSTRUMENTAL NOTATION SYMBOL-|1|2|4|5|7|8|11|12|13|14|17|18|19|23|24
1D22C|GREEK INSTRUMENTAL NOTATION SYMBOL-|25|26|27|29|30|32|36|37|38|39|40|42|43|45|47|48|49|50|51|52|53|54
1D242|COMBINING GREEK MUSICAL |TRISEME|TETRASEME|PENTASEME
1D245||GREEK MUSICAL LEIMMA
1D2E0|MAYAN NUMERAL |ZERO|ONE|TWO|THREE|FOUR|FIVE|SIX|SEVEN|EIGHT
1D2E9|MAYAN NUMERAL |NINE|TEN|ELEVEN|TWELVE|THIRTEEN|FOURTEEN|FIFTEEN|SIXTEEN|SEVENTEEN|EIGHTEEN|NINETEEN
1D300||MONOGRAM FOR EARTH
1D301|DIGRAM FOR |HEAVENLY EARTH|HUMAN EARTH|EARTHLY HEAVEN|EARTHLY HUMAN|EARTH
1D306|TETRAGRAM FOR |CENTRE|FULL CIRCLE|MIRED|BARRIER|KEEPING SMALL|CONTRARIETY|ASCENT
1D30D|TETRAGRAM FOR |OPPOSITION|BRANCHING OUT|DEFECTIVENESS OR DISTORTION|DIVERGENCE|YOUTHFULNESS|INCREASE
1D313|TETRAGRAM FOR |PENETRATION|REACH|CONTACT|HOLDING BACK|WAITING|FOLLOWING|ADVANCE|RELEASE|RESISTANCE
1D31C|TETRAGRAM FOR |EASE|JOY|CONTENTION|ENDEAVOUR|DUTIES|CHANGE|DECISIVENESS|BOLD RESOLUTION|PACKING
1D325|TETRAGRAM FOR |LEGION|CLOSENESS|KINSHIP|GATHERING|STRENGTH|PURITY|FULLNESS|RESIDENCE|LAW OR MODEL
1D32E|TETRAGRAM FOR |RESPONSE|GOING TO MEET|ENCOUNTERS|STOVE|GREATNESS|ENLARGEMENT|PATTERN|RITUAL
1D336|TETRAGRAM FOR |FLIGHT|VASTNESS OR WASTING|CONSTANCY|MEASURE|ETERNITY|UNITY|DIMINISHMENT|CLOSED MOUTH
1D33E|TETRAGRAM FOR |GUARDEDNESS|GATHERING IN|MASSING|ACCUMULATION|EMBELLISHMENT|DOUBT|WATCH|SINKING
1D346|TETRAGRAM FOR |INNER|DEPARTURE|DARKENING|DIMMING|EXHAUSTION|SEVERANCE|STOPPAGE|HARDNESS|COMPLETION
1D34F|TETRAGRAM FOR |CLOSURE|FAILURE|AGGRAVATION|COMPLIANCE|ON THE VERGE|DIFFICULTIES|LABOURING|FOSTERING
1D360|COUNTING ROD UNIT DIGIT |ONE|TWO|THREE|FOUR|FIVE|SIX|SEVEN|EIGHT|NINE
1D369|COUNTING ROD TENS DIGIT |ONE|TWO|THREE|FOUR|FIVE|SIX|SEVEN|EIGHT|NINE
1D372|IDEOGRAPHIC TALLY MARK |ONE|TWO|THREE|FOUR|FIVE
1D377|TALLY MARK |ONE|FIVE
1D400|MATHEMATICAL BOLD CAPITAL |A|B|C|D|E|F|G|H|I|J|K|L|M|N|O|P|Q|R|S|T|U|V|W|X|Y|Z
1D41A|MATHEMATICAL BOLD SMALL |A|B|C|D|E|F|G|H|I|J|K|L|M|N|O|P|Q|R|S|T|U|V|W|X|Y|Z
1D434|MATHEMATICAL ITALIC CAPITAL |A|B|C|D|E|F|G|H|I|J|K|L|M|N|O|P|Q|R|S|T|U|V|W|X|Y|Z
1D44E|MATHEMATICAL ITALIC SMALL |A|B|C|D|E|F|G
1D456|MATHEMATICAL ITALIC SMALL |I|J|K|L|M|N|O|P|Q|R|S|T|U|V|W|X|Y|Z
1D468|MATHEMATICAL BOLD ITALIC CAPITAL |A|B|C|D|E|F|G|H|I|J|K|L|M|N|O|P|Q|R|S|T|U|V|W|X|Y|Z
1D482|MATHEMATICAL BOLD ITALIC SMALL |A|B|C|D|E|F|G|H|I|J|K|L|M|N|O|P|Q|R|S|T|U|V|W|X|Y|Z
1D49C||MATHEMATICAL SCRIPT CAPITAL A
1D49E|MATHEMATICAL SCRIPT CAPITAL |C|D
1D4A2||MATHEMATICAL SCRIPT CAPITAL G
1D4A5|MATHEMATICAL SCRIPT CAPITAL |J|K
1D4A9|MATHEMATICAL SCRIPT CAPITAL |N|O|P|Q
1D4AE|MATHEMATICAL SCRIPT CAPITAL |S|T|U|V|W|X|Y|Z
1D4B6|MATHEMATICAL SCRIPT SMALL |A|B|C|D
1D4BB||MATHEMATICAL SCRIPT SMALL F
1D4BD|MATHEMATICAL SCRIPT SMALL |H|I|J|K|L|M|N
1D4C5|MATHEMATICAL SCRIPT SMALL |P|Q|R|S|T|U|V|W|X|Y|Z
1D4D0|MATHEMATICAL BOLD SCRIPT CAPITAL |A|B|C|D|E|F|G|H|I|J|K|L|M|N|O|P|Q|R|S|T|U|V|W|X|Y|Z
1D4EA|MATHEMATICAL BOLD SCRIPT SMALL |A|B|C|D|E|F|G|H|I|J|K|L|M|N|O|P|Q|R|S|T|U|V|W|X|Y|Z
1D504|MATHEMATICAL FRAKTUR CAPITAL |A|B
1D507|MATHEMATICAL FRAKTUR CAPITAL |D|E|F|G
1D50D|MATHEMATICAL FRAKTUR CAPITAL |J|K|L|M|N|O|P|Q
1D516|MATHEMATICAL FRAKTUR CAPITAL |S|T|U|V|W|X|Y
1D51E|MATHEMATICAL FRAKTUR SMALL |A|B|C|D|E|F|G|H|I|J|K|L|M|N|O|P|Q|R|S|T|U|V|W|X|Y|Z
1D538|MATHEMATICAL DOUBLE-STRUCK CAPITAL |A|B
1D53B|MATHEMATICAL DOUBLE-STRUCK CAPITAL |D|E|F|G
1D540|MATHEMATICAL DOUBLE-STRUCK CAPITAL |I|J|K|L|M
1D546||MATHEMATICAL DOUBLE-STRUCK CAPITAL O
1D54A|MATHEMATICAL DOUBLE-STRUCK CAPITAL |S|T|U|V|W|X|Y
1D552|MATHEMATICAL DOUBLE-STRUCK SMALL |A|B|C|D|E|F|G|H|I|J|K|L|M|N|O|P|Q|R|S|T|U|V|W|X|Y|Z
1D56C|MATHEMATICAL BOLD FRAKTUR CAPITAL |A|B|C|D|E|F|G|H|I|J|K|L|M|N|O|P|Q|R|S|T|U|V|W|X|Y|Z
1D586|MATHEMATICAL BOLD FRAKTUR SMALL |A|B|C|D|E|F|G|H|I|J|K|L|M|N|O|P|Q|R|S|T|U|V|W|X|Y|Z
1D5A0|MATHEMATICAL SANS-SERIF CAPITAL |A|B|C|D|E|F|G|H|I|J|K|L|M|N|O|P|Q|R|S|T|U|V|W|X|Y|Z
1D5BA|MATHEMATICAL SANS-SERIF SMALL |A|B|C|D|E|F|G|H|I|J|K|L|M|N|O|P|Q|R|S|T|U|V|W|X|Y|Z
1D5D4|MATHEMATICAL SANS-SERIF BOLD CAPITAL |A|B|C|D|E|F|G|H|I|J|K|L|M|N|O|P|Q|R|S|T|U|V|W|X|Y|Z
1D5EE|MATHEMATICAL SANS-SERIF BOLD SMALL |A|B|C|D|E|F|G|H|I|J|K|L|M|N|O|P|Q|R|S|T|U|V|W|X|Y|Z
1D608|MATHEMATICAL SANS-SERIF ITALIC CAPITAL |A|B|C|D|E|F|G|H|I|J|K|L|M|N|O|P|Q|R|S|T|U|V|W|X|Y|Z
1D622|MATHEMATICAL SANS-SERIF ITALIC SMALL |A|B|C|D|E|F|G|H|I|J|K|L|M|N|O|P|Q|R|S|T|U|V|W|X|Y|Z
1D63C|MATHEMATICAL SANS-SERIF BOLD ITALIC CAPITAL |A|B|C|D|E|F|G|H|I|J|K|L|M|N|O|P|Q|R|S|T|U|V|W|X|Y|Z
1D656|MATHEMATICAL SANS-SERIF BOLD ITALIC SMALL |A|B|C|D|E|F|G|H|I|J|K|L|M|N|O|P|Q|R|S|T|U|V|W|X|Y|Z
1D670|MATHEMATICAL MONOSPACE CAPITAL |A|B|C|D|E|F|G|H|I|J|K|L|M|N|O|P|Q|R|S|T|U|V|W|X|Y|Z
1D68A|MATHEMATICAL MONOSPACE SMALL |A|B|C|D|E|F|G|H|I|J|K|L|M|N|O|P|Q|R|S|T|U|V|W|X|Y|Z
1D6A4|MATHEMATICAL ITALIC SMALL DOTLESS |I|J
1D6A8|MATHEMATICAL BOLD CAPITAL |ALPHA|BETA|GAMMA|DELTA|EPSILON|ZETA|ETA|THETA|IOTA|KAPPA|LAMDA
1D6B3|MATHEMATICAL BOLD CAPITAL |MU|NU|XI|OMICRON|PI|RHO|THETA SYMBOL|SIGMA|TAU|UPSILON|PHI|CHI|PSI|OMEGA
1D6C1||MATHEMATICAL BOLD NABLA
1D6C2|MATHEMATICAL BOLD SMALL |ALPHA|BETA|GAMMA|DELTA|EPSILON|ZETA|ETA|THETA|IOTA|KAPPA
1D6CC|MATHEMATICAL BOLD SMALL |LAMDA|MU|NU|XI|OMICRON|PI|RHO|FINAL SIGMA|SIGMA|TAU|UPSILON|PHI|CHI|PSI|OMEGA
1D6DB||MATHEMATICAL BOLD PARTIAL DIFFERENTIAL
1D6DC|MATHEMATICAL BOLD |EPSILON SYMBOL|THETA SYMBOL|KAPPA SYMBOL|PHI SYMBOL|RHO SYMBOL|PI SYMBOL
1D6E2|MATHEMATICAL ITALIC CAPITAL |ALPHA|BETA|GAMMA|DELTA|EPSILON|ZETA|ETA|THETA|IOTA|KAPPA|LAMDA
1D6ED|MATHEMATICAL ITALIC CAPITAL |MU|NU|XI|OMICRON|PI|RHO|THETA SYMBOL|SIGMA|TAU|UPSILON|PHI|CHI|PSI|OMEGA
1D6FB||MATHEMATICAL ITALIC NABLA
1D6FC|MATHEMATICAL ITALIC SMALL |ALPHA|BETA|GAMMA|DELTA|EPSILON|ZETA|ETA|THETA|IOTA|KAPPA|LAMDA
1D707|MATHEMATICAL ITALIC SMALL |MU|NU|XI|OMICRON|PI|RHO|FINAL SIGMA|SIGMA|TAU|UPSILON|PHI|CHI|PSI|OMEGA
1D715||MATHEMATICAL ITALIC PARTIAL DIFFERENTIAL
1D716|MATHEMATICAL ITALIC |EPSILON SYMBOL|THETA SYMBOL|KAPPA SYMBOL|PHI SYMBOL|RHO SYMBOL|PI SYMBOL
1D71C|MATHEMATICAL BOLD ITALIC CAPITAL |ALPHA|BETA|GAMMA|DELTA|EPSILON|ZETA|ETA|THETA|IOTA|KAPPA|LAMDA|MU
1D728|MATHEMATICAL BOLD ITALIC CAPITAL |NU|XI|OMICRON|PI|RHO|THETA SYMBOL|SIGMA|TAU|UPSILON|PHI|CHI|PSI|OMEGA
1D735||MATHEMATICAL BOLD ITALIC NABLA
1D736|MATHEMATICAL BOLD ITALIC SMALL |ALPHA|BETA|GAMMA|DELTA|EPSILON|ZETA|ETA|THETA|IOTA|KAPPA|LAMDA
1D741|MATHEMATICAL BOLD ITALIC SMALL |MU|NU|XI|OMICRON|PI|RHO|FINAL SIGMA|SIGMA|TAU|UPSILON|PHI|CHI|PSI|OMEGA
1D74F||MATHEMATICAL BOLD ITALIC PARTIAL DIFFERENTIAL
1D750|MATHEMATICAL BOLD ITALIC |EPSILON SYMBOL|THETA SYMBOL|KAPPA SYMBOL|PHI SYMBOL|RHO SYMBOL|PI SYMBOL
1D756|MATHEMATICAL SANS-SERIF BOLD CAPITAL |ALPHA|BETA|GAMMA|DELTA|EPSILON|ZETA|ETA|THETA|IOTA|KAPPA|LAMDA|MU
1D762|MATHEMATICAL SANS-SERIF BOLD CAPITAL |NU|XI|OMICRON|PI|RHO|THETA SYMBOL|SIGMA|TAU|UPSILON|PHI|CHI|PSI
1D76E|MATHEMATICAL SANS-SERIF BOLD |CAPITAL OMEGA|NABLA
1D770|MATHEMATICAL SANS-SERIF BOLD SMALL |ALPHA|BETA|GAMMA|DELTA|EPSILON|ZETA|ETA|THETA|IOTA|KAPPA|LAMDA
1D77B|MATHEMATICAL SANS-SERIF BOLD SMALL |MU|NU|XI|OMICRON|PI|RHO|FINAL SIGMA|SIGMA|TAU|UPSILON|PHI|CHI|PSI
1D788|MATHEMATICAL SANS-SERIF BOLD |SMALL OMEGA|PARTIAL DIFFERENTIAL|EPSILON SYMBOL|THETA SYMBOL
1D78C|MATHEMATICAL SANS-SERIF BOLD |KAPPA SYMBOL|PHI SYMBOL|RHO SYMBOL|PI SYMBOL|ITALIC CAPITAL ALPHA
1D791|MATHEMATICAL SANS-SERIF BOLD ITALIC CAPITAL |BETA|GAMMA|DELTA|EPSILON|ZETA|ETA|THETA|IOTA|KAPPA|LAMDA
1D79B|MATHEMATICAL SANS-SERIF BOLD ITALIC CAPITAL |MU|NU|XI|OMICRON|PI|RHO|THETA SYMBOL|SIGMA|TAU|UPSILON|PHI
1D7A6|MATHEMATICAL SANS-SERIF BOLD ITALIC |CAPITAL CHI|CAPITAL PSI|CAPITAL OMEGA|NABLA|SMALL ALPHA
1D7AB|MATHEMATICAL SANS-SERIF BOLD ITALIC SMALL |BETA|GAMMA|DELTA|EPSILON|ZETA|ETA|THETA|IOTA|KAPPA|LAMDA|MU
1D7B6|MATHEMATICAL SANS-SERIF BOLD ITALIC SMALL |NU|XI|OMICRON|PI|RHO|FINAL SIGMA|SIGMA|TAU|UPSILON|PHI|CHI
1D7C1|MATHEMATICAL SANS-SERIF BOLD ITALIC |SMALL PSI|SMALL OMEGA|PARTIAL DIFFERENTIAL|EPSILON SYMBOL
1D7C5|MATHEMATICAL SANS-SERIF BOLD ITALIC |THETA SYMBOL|KAPPA SYMBOL|PHI SYMBOL|RHO SYMBOL|PI SYMBOL
1D7CA|MATHEMATICAL BOLD |CAPITAL DIGAMMA|SMALL DIGAMMA
1D7CE|MATHEMATICAL BOLD DIGIT |ZERO|ONE|TWO|THREE|FOUR|FIVE|SIX|SEVEN|EIGHT|NINE
1D7D8|MATHEMATICAL DOUBLE-STRUCK DIGIT |ZERO|ONE|TWO|THREE|FOUR|FIVE|SIX|SEVEN|EIGHT|NINE
1D7E2|MATHEMATICAL SANS-SERIF DIGIT |ZERO|ONE|TWO|THREE|FOUR|FIVE|SIX|SEVEN|EIGHT|NINE
1D7EC|MATHEMATICAL SANS-SERIF BOLD DIGIT |ZERO|ONE|TWO|THREE|FOUR|FIVE|SIX|SEVEN|EIGHT|NINE
1D7F6|MATHEMATICAL MONOSPACE DIGIT |ZERO|ONE|TWO|THREE|FOUR|FIVE|SIX|SEVEN|EIGHT|NINE
1D800|SIGNWRITING HAND-|FIST INDEX|CIRCLE INDEX|CUP INDEX|OVAL INDEX
1D804|SIGNWRITING HAND-|HINGE INDEX|ANGLE INDEX|FIST INDEX BENT|CIRCLE INDEX BENT|FIST THUMB UNDER INDEX BENT
1D809|SIGNWRITING HAND-FIST INDEX |RAISED KNUCKLE|CUPPED|HINGED|HINGED LOW
1D80D|SIGNWRITING HAND-|CIRCLE INDEX HINGE|FIST INDEX MIDDLE|CIRCLE INDEX MIDDLE|FIST INDEX MIDDLE BENT
1D811|SIGNWRITING HAND-FIST INDEX |MIDDLE RAISED KNUCKLES|MIDDLE HINGED|UP MIDDLE HINGED|HINGED MIDDLE UP
1D815|SIGNWRITING HAND-FIST INDEX MIDDLE CONJOINED|| INDEX BENT| MIDDLE BENT| CUPPED| HINGED
1D81A|SIGNWRITING HAND-|FIST INDEX MIDDLE CROSSED|CIRCLE INDEX MIDDLE CROSSED|FIST MIDDLE BENT OVER INDEX
1D81D|SIGNWRITING HAND-FIST INDEX |BENT OVER MIDDLE|MIDDLE THUMB
1D81F|SIGNWRITING HAND-|CIRCLE INDEX MIDDLE THUMB|FIST INDEX MIDDLE STRAIGHT THUMB BENT
1D821|SIGNWRITING HAND-FIST INDEX MIDDLE |BENT THUMB STRAIGHT|THUMB BENT|HINGED SPREAD THUMB SIDE
1D824|SIGNWRITING HAND-FIST INDEX UP MIDDLE HINGED THUMB |SIDE|CONJOINED
1D826|SIGNWRITING HAND-FIST INDEX |HINGED MIDDLE UP THUMB SIDE|MIDDLE UP SPREAD THUMB FORWARD
1D828|SIGNWRITING HAND-FIST INDEX MIDDLE THUMB |CUPPED|CIRCLED|HOOKED|HINGED
1D82C||SIGNWRITING HAND-FIST THUMB BETWEEN INDEX MIDDLE STRAIGHT
1D82D|SIGNWRITING HAND-FIST INDEX MIDDLE CONJOINED THUMB SIDE|| CONJOINED| BENT
1D830|SIGNWRITING HAND-FIST |MIDDLE THUMB HOOKED INDEX UP|INDEX THUMB HOOKED MIDDLE UP
1D832|SIGNWRITING HAND-FIST INDEX MIDDLE C|ONJOINED HINGED THUMB SIDE|ROSSED THUMB SIDE
1D834|SIGNWRITING HAND-FIST INDEX MIDDLE CONJOINED |THUMB FORWARD|CUPPED THUMB FORWARD
1D836|SIGNWRITING HAND-FIST |MIDDLE THUMB CUPPED INDEX UP|INDEX THUMB CUPPED MIDDLE UP
1D838|SIGNWRITING HAND-FIST MIDDLE THUMB CIRCLED INDEX |UP|HINGED
1D83A|SIGNWRITING HAND-FIST INDEX THUMB |ANGLED OUT MIDDLE UP|ANGLED IN MIDDLE UP|CIRCLED MIDDLE UP
1D83D|SIGNWRITING HAND-FIST INDEX MIDDLE THUMB |CONJOINED HINGED|ANGLED OUT|ANGLED
1D840|SIGNWRITING HAND-FIST MIDDLE THUMB ANGLED |OUT INDEX UP|OUT INDEX CROSSED|INDEX UP
1D843||SIGNWRITING HAND-FIST INDEX THUMB HOOKED MIDDLE HINGED
1D844|SIGNWRITING HAND-FLAT FOUR FINGERS|| BENT| HINGED| CONJOINED| CONJOINED SPLIT
1D849||SIGNWRITING HAND-CLAW FOUR FINGERS CONJOINED
1D84A|SIGNWRITING HAND-|FIST FOUR FINGERS CONJOINED BENT|HINGE FOUR FINGERS CONJOINED
1D84C|SIGNWRITING HAND-FLAT |FIVE FINGERS SPREAD|HEEL FIVE FINGERS SPREAD|FIVE FINGERS SPREAD FOUR BENT
1D84F|SIGNWRITING HAND-FLAT |HEEL FIVE FINGERS SPREAD FOUR BENT|FIVE FINGERS SPREAD BENT
1D851|SIGNWRITING HAND-FLAT |HEEL FIVE FINGERS SPREAD BENT|FIVE FINGERS SPREAD THUMB FORWARD
1D853|SIGNWRITING HAND-CUP FIVE FINGERS SPREAD|| OPEN
1D855|SIGNWRITING HAND-|HINGE FIVE FINGERS SPREAD OPEN|OVAL FIVE FINGERS SPREAD
1D857|SIGNWRITING HAND-FLAT FIVE FINGERS SPREAD HINGED|| THUMB SIDE| NO THUMB
1D85A|SIGNWRITING HAND-FLAT|| BETWEEN PALM FACINGS| HEEL| THUMB SIDE| HEEL THUMB SIDE
1D85F|SIGNWRITING HAND-FLAT THUMB |BENT|FORWARD
1D861|SIGNWRITING HAND-FLAT SPLIT |INDEX THUMB SIDE|CENTRE|CENTRE THUMB SIDE|CENTRE THUMB SIDE BENT|LITTLE
1D866|SIGNWRITING HAND-|CLAW|CLAW THUMB SIDE|CLAW NO THUMB|CLAW THUMB FORWARD|HOOK CURLICUE|HOOK
1D86C|SIGNWRITING HAND-CUP| OPEN|| OPEN THUMB SIDE| THUMB SIDE| OPEN NO THUMB| NO THUMB| OPEN THUMB FORWARD
1D873|SIGNWRITING HAND-C|UP THUMB FORWARD|URLICUE OPEN|URLICUE|IRCLE
1D877|SIGNWRITING HAND-OVAL|| THUMB SIDE| NO THUMB| THUMB FORWARD
1D87B|SIGNWRITING HAND-HINGE| OPEN| OPEN THUMB FORWARD|| SMALL| OPEN THUMB SIDE| THUMB SIDE
1D881|SIGNWRITING HAND-HINGE |OPEN NO THUMB|NO THUMB|THUMB SIDE TOUCHING INDEX|THUMB BETWEEN MIDDLE RING
1D885|SIGNWRITING HAND-|ANGLE|FIST INDEX MIDDLE RING|CIRCLE INDEX MIDDLE RING|HINGE INDEX MIDDLE RING
1D889|SIGNWRITING HAND-|ANGLE INDEX MIDDLE RING|HINGE LITTLE|FIST INDEX MIDDLE RING BENT
1D88C|SIGNWRITING HAND-|FIST INDEX MIDDLE RING CONJOINED|HINGE INDEX MIDDLE RING CONJOINED
1D88E|SIGNWRITING HAND-FIST LITTLE |DOWN|DOWN RIPPLE STRAIGHT|DOWN RIPPLE CURVED|DOWN OTHERS CIRCLED|UP
1D893|SIGNWRITING HAND-|FIST THUMB UNDER LITTLE UP|CIRCLE LITTLE UP|OVAL LITTLE UP|ANGLE LITTLE UP
1D897|SIGNWRITING HAND-FIST LITTLE |RAISED KNUCKLE|BENT|TOUCHES THUMB|THUMB
1D89B|SIGNWRITING HAND-|HINGE LITTLE THUMB|FIST LITTLE INDEX THUMB|HINGE LITTLE INDEX THUMB
1D89E|SIGNWRITING HAND-ANGLE LITTLE INDEX THUMB INDEX THUMB| OUT|
1D8A0|SIGNWRITING HAND-|FIST LITTLE INDEX|CIRCLE LITTLE INDEX|HINGE LITTLE INDEX
1D8A3|SIGNWRITING HAND-|ANGLE LITTLE INDEX|FIST INDEX MIDDLE LITTLE|CIRCLE INDEX MIDDLE LITTLE
1D8A6|SIGNWRITING HAND-|HINGE INDEX MIDDLE LITTLE|HINGE RING|ANGLE INDEX MIDDLE LITTLE
1D8A9|SIGNWRITING HAND-|FIST INDEX MIDDLE CROSS LITTLE|CIRCLE INDEX MIDDLE CROSS LITTLE|FIST RING DOWN
1D8AC|SIGNWRITING HAND-|HINGE RING DOWN INDEX THUMB HOOK MIDDLE|ANGLE RING DOWN MIDDLE THUMB INDEX CROSS
1D8AE|SIGNWRITING HAND-FIST RING |UP|RAISED KNUCKLE|LITTLE
1D8B1|SIGNWRITING HAND-|CIRCLE RING LITTLE|OVAL RING LITTLE|ANGLE RING LITTLE
1D8B4|SIGNWRITING HAND-FIST RING |MIDDLE|MIDDLE CONJOINED|MIDDLE RAISED KNUCKLES|INDEX|THUMB
1D8B9|SIGNWRITING HAND-|HOOK RING THUMB|FIST INDEX RING LITTLE
1D8BB|SIGNWRITING HAND-C|IRCLE INDEX RING LITTLE|URLICUE INDEX RING LITTLE ON
1D8BD|SIGNWRITING HAND-HOOK INDEX RING LITTLE |OUT|IN|UNDER
1D8C0|SIGNWRITING HAND-|CUP INDEX RING LITTLE|HINGE INDEX RING LITTLE|ANGLE INDEX RING LITTLE OUT
1D8C3|SIGNWRITING HAND-|ANGLE INDEX RING LITTLE|FIST MIDDLE DOWN|HINGE MIDDLE|FIST MIDDLE UP|CIRCLE MIDDLE UP
1D8C8|SIGNWRITING HAND-|FIST MIDDLE RAISED KNUCKLE|FIST MIDDLE UP THUMB SIDE|HOOK MIDDLE THUMB
1D8CB|SIGNWRITING HAND-FIST MIDDLE |THUMB LITTLE|LITTLE|RING LITTLE
1D8CE|SIGNWRITING HAND-C|IRCLE MIDDLE RING LITTLE|URLICUE MIDDLE RING LITTLE ON|UP MIDDLE RING LITTLE
1D8D1||SIGNWRITING HAND-HINGE MIDDLE RING LITTLE
1D8D2|SIGNWRITING HAND-ANGLE MIDDLE RING LITTLE| OUT| IN|
1D8D5||SIGNWRITING HAND-CIRCLE MIDDLE RING LITTLE BENT
1D8D6|SIGNWRITING HAND-CLAW MIDDLE RING LITTLE CONJOINED|| SIDE
1D8D8|SIGNWRITING HAND-HOOK MIDDLE RING LITTLE CONJOINED| OUT| IN|
1D8DB|SIGNWRITING HAND-|HINGE INDEX HINGED|FIST INDEX THUMB SIDE|HINGE INDEX THUMB SIDE
1D8DE|SIGNWRITING HAND-FIST INDEX THUMB SIDE |THUMB DIAGONAL|THUMB CONJOINED|THUMB BENT|INDEX BENT|BOTH BENT
1D8E3|SIGNWRITING HAND-FIST INDEX THUMB |SIDE INDEX HINGE|FORWARD INDEX STRAIGHT|FORWARD INDEX BENT|HOOK
1D8E7|SIGNWRITING HAND-FIST INDEX THUMB CUR|LICUE|VE THUMB INSIDE
1D8E9||SIGNWRITING HAND-CLAW INDEX THUMB CURVE THUMB INSIDE
1D8EA|SIGNWRITING HAND-FIST INDEX THUMB C|URVE THUMB UNDER|IRCLE
1D8EC|SIGNWRITING HAND-CUP INDEX THUMB|| OPEN
1D8EE|SIGNWRITING HAND-HINGE INDEX THUMB| OPEN| LARGE|| SMALL
1D8F2|SIGNWRITING HAND-ANGLE INDEX THUMB| OUT| IN|
1D8F5|SIGNWRITING HAND-FIST THUMB|| HEEL| SIDE DIAGONAL| SIDE CONJOINED| SIDE BENT| FORWARD
1D8FB|SIGNWRITING HAND-FIST THUMB BETWEEN |INDEX MIDDLE|MIDDLE RING|RING LITTLE
1D8FE|SIGNWRITING HAND-FIST THUMB |UNDER TWO FINGERS|OVER TWO FINGERS|UNDER THREE FINGERS|UNDER FOUR FINGERS
1D902|SIGNWRITING HAND-FIST| THUMB OVER FOUR RAISED KNUCKLES|| HEEL
1D905|SIGNWRITING TOUCH |SINGLE|MULTIPLE|BETWEEN
1D908|SIGNWRITING GRASP |SINGLE|MULTIPLE|BETWEEN
1D90B|SIGNWRITING STRIKE |SINGLE|MULTIPLE|BETWEEN
1D90E|SIGNWRITING BRUSH |SINGLE|MULTIPLE|BETWEEN
1D911|SIGNWRITING |RUB SINGLE|RUB MULTIPLE|RUB BETWEEN|SURFACE SYMBOLS|SURFACE BETWEEN
1D916|SIGNWRITING SQUEEZE |LARGE SINGLE|SMALL SINGLE|LARGE MULTIPLE|SMALL MULTIPLE|SEQUENTIAL
1D91B|SIGNWRITING FLICK |LARGE SINGLE|SMALL SINGLE|LARGE MULTIPLE|SMALL MULTIPLE|SEQUENTIAL
1D920||SIGNWRITING SQUEEZE FLICK ALTERNATING
1D921|SIGNWRITING MOVEMENT-HINGE |UP DOWN LARGE|UP DOWN SMALL|UP SEQUENTIAL|DOWN SEQUENTIAL
1D925|SIGNWRITING MOVEMENT-HINGE UP DOWN ALTERNATING |LARGE|SMALL
1D927|SIGNWRITING MOVEMENT-|HINGE SIDE TO SIDE SCISSORS|WALLPLANE FINGER CONTACT|FLOORPLANE FINGER CONTACT
1D92A|SIGNWRITING MOVEMENT-WALLPLANE SINGLE STRAIGHT |SMALL|MEDIUM|LARGE|LARGEST
1D92E|SIGNWRITING MOVEMENT-WALLPLANE |SINGLE WRIST FLEX|DOUBLE STRAIGHT|DOUBLE WRIST FLEX
1D931|SIGNWRITING MOVEMENT-WALLPLANE |DOUBLE ALTERNATING|DOUBLE ALTERNATING WRIST FLEX|CROSS
1D934|SIGNWRITING MOVEMENT-WALLPLANE TRIPLE |STRAIGHT MOVEMENT|WRIST FLEX|ALTERNATING|ALTERNATING WRIST FLEX
1D938|SIGNWRITING MOVEMENT-WALLPLANE BEND |SMALL|MEDIUM|LARGE
1D93B|SIGNWRITING MOVEMENT-WALLPLANE CORNER |SMALL|MEDIUM|LARGE|ROTATION
1D93F|SIGNWRITING MOVEMENT-WALLPLANE |CHECK SMALL|CHECK MEDIUM|CHECK LARGE|BOX SMALL|BOX MEDIUM|BOX LARGE
1D945|SIGNWRITING MOVEMENT-WALLPLANE ZIGZAG |SMALL|MEDIUM|LARGE
1D948|SIGNWRITING MOVEMENT-WALLPLANE PEAKS |SMALL|MEDIUM|LARGE
1D94B|SIGNWRITING TRAVEL-WALLPLANE ROTATION-WALLPLANE |SINGLE|DOUBLE|ALTERNATING
1D94E|SIGNWRITING TRAVEL-WALLPLANE ROTATION-FLOORPLANE |SINGLE|DOUBLE|ALTERNATING
1D951|SIGNWRITING TRAVEL-WALLPLANE |SHAKING|ARM SPIRAL SINGLE|ARM SPIRAL DOUBLE|ARM SPIRAL TRIPLE
1D955|SIGNWRITING MOVEMENT-DIAGONAL AWAY |SMALL|MEDIUM|LARGE|LARGEST
1D959|SIGNWRITING MOVEMENT-DIAGONAL TOWARDS |SMALL|MEDIUM|LARGE|LARGEST
1D95D|SIGNWRITING MOVEMENT-DIAGONAL BETWEEN AWAY |SMALL|MEDIUM|LARGE|LARGEST
1D961|SIGNWRITING MOVEMENT-DIAGONAL BETWEEN TOWARDS |SMALL|MEDIUM|LARGE|LARGEST
1D965|SIGNWRITING MOVEMENT-FLOORPLANE SINGLE STRAIGHT |SMALL|MEDIUM|LARGE|LARGEST
1D969|SIGNWRITING MOVEMENT-FLOORPLANE |SINGLE WRIST FLEX|DOUBLE STRAIGHT|DOUBLE WRIST FLEX|DOUBLE ALTERNATING
1D96D|SIGNWRITING MOVEMENT-FLOORPLANE |DOUBLE ALTERNATING WRIST FLEX|CROSS|TRIPLE STRAIGHT MOVEMENT
1D970|SIGNWRITING MOVEMENT-FLOORPLANE TRIPLE |WRIST FLEX|ALTERNATING MOVEMENT|ALTERNATING WRIST FLEX
1D973|SIGNWRITING MOVEMENT-FLOORPLANE |BEND|CORNER SMALL|CORNER MEDIUM|CORNER LARGE|CHECK
1D978|SIGNWRITING MOVEMENT-FLOORPLANE |BOX SMALL|BOX MEDIUM|BOX LARGE|ZIGZAG SMALL|ZIGZAG MEDIUM|ZIGZAG LARGE
1D97E|SIGNWRITING MOVEMENT-FLOORPLANE PEAKS |SMALL|MEDIUM|LARGE
1D981|SIGNWRITING TRAVEL-FLOORPLANE ROTATION-FLOORPLANE |SINGLE|DOUBLE|ALTERNATING
1D984|SIGNWRITING TRAVEL-FLOORPLANE ROTATION-WALLPLANE |SINGLE|DOUBLE|ALTERNATING
1D987||SIGNWRITING TRAVEL-FLOORPLANE SHAKING
1D988|SIGNWRITING MOVEMENT-WALLPLANE CURVE QUARTER |SMALL|MEDIUM|LARGE|LARGEST
1D98C|SIGNWRITING MOVEMENT-WALLPLANE CURVE HALF-CIRCLE |SMALL|MEDIUM|LARGE|LARGEST
1D990|SIGNWRITING MOVEMENT-WALLPLANE CURVE THREE-QUARTER CIRCLE |SMALL|MEDIUM
1D992|SIGNWRITING MOVEMENT-WALLPLANE HUMP |SMALL|MEDIUM|LARGE
1D995|SIGNWRITING MOVEMENT-WALLPLANE LOOP |SMALL|MEDIUM|LARGE|SMALL DOUBLE
1D999|SIGNWRITING MOVEMENT-WALLPLANE WAVE CURVE DOUBLE |SMALL|MEDIUM|LARGE
1D99C|SIGNWRITING MOVEMENT-WALLPLANE WAVE CURVE TRIPLE |SMALL|MEDIUM|LARGE
1D99F|SIGNWRITING MOVEMENT-WALLPLANE CURVE| THEN STRAIGHT|D CROSS SMALL|D CROSS MEDIUM
1D9A2|SIGNWRITING ROTATION-WALLPLANE |SINGLE|DOUBLE|ALTERNATE
1D9A5|SIGNWRITING MOVEMENT-WALLPLANE |SHAKING|CURVE HITTING FRONT WALL
1D9A7|SIGNWRITING MOVEMENT-WALLPLANE |HUMP HITTING FRONT WALL|LOOP HITTING FRONT WALL|WAVE HITTING FRONT WALL
1D9AA|SIGNWRITING ROTATION-WALLPLANE |SINGLE HITTING FRONT WALL|DOUBLE HITTING FRONT WALL
1D9AC|SIGNWRITING |ROTATION-WALLPLANE ALTERNATING HITTING FRONT WALL|MOVEMENT-WALLPLANE CURVE HITTING CHEST
1D9AE|SIGNWRITING MOVEMENT-WALLPLANE |HUMP HITTING CHEST|LOOP HITTING CHEST|WAVE HITTING CHEST
1D9B1|SIGNWRITING ROTATION-WALLPLANE |SINGLE HITTING CHEST|DOUBLE HITTING CHEST|ALTERNATING HITTING CHEST
1D9B4|SIGNWRITING MOVEMENT-WALLPLANE WAVE DIAGONAL PATH |SMALL|MEDIUM|LARGE
1D9B7|SIGNWRITING MOVEMENT-FLOORPLANE CURVE HITTING CEILING |SMALL|LARGE
1D9B9|SIGNWRITING MOVEMENT-FLOORPLANE HUMP HITTING CEILING |SMALL DOUBLE|LARGE DOUBLE|SMALL TRIPLE
1D9BC|SIGNWRITING MOVEMENT-FLOORPLANE |HUMP HITTING CEILING LARGE TRIPLE|LOOP HITTING CEILING SMALL SINGLE
1D9BE|SIGNWRITING MOVEMENT-FLOORPLANE LOOP HITTING CEILING |LARGE SINGLE|SMALL DOUBLE|LARGE DOUBLE
1D9C1|SIGNWRITING MOVEMENT-FLOORPLANE WAVE HITTING CEILING |SMALL|LARGE
1D9C3||SIGNWRITING ROTATION-FLOORPLANE SINGLE HITTING CEILING
1D9C4|SIGNWRITING ROTATION-FLOORPLANE |DOUBLE HITTING CEILING|ALTERNATING HITTING CEILING
1D9C6|SIGNWRITING MOVEMENT-FLOORPLANE CURVE HITTING FLOOR |SMALL|LARGE
1D9C8|SIGNWRITING MOVEMENT-FLOORPLANE HUMP HITTING FLOOR |SMALL DOUBLE|LARGE DOUBLE
1D9CA|SIGNWRITING MOVEMENT-FLOORPLANE HUMP HITTING FLOOR TRIPLE |SMALL TRIPLE|LARGE TRIPLE
1D9CC|SIGNWRITING MOVEMENT-FLOORPLANE LOOP HITTING FLOOR |SMALL SINGLE|LARGE SINGLE|SMALL DOUBLE|LARGE DOUBLE
1D9D0|SIGNWRITING MOVEMENT-FLOORPLANE WAVE HITTING FLOOR |SMALL|LARGE
1D9D2|SIGNWRITING ROTATION-FLOORPLANE |SINGLE HITTING FLOOR|DOUBLE HITTING FLOOR|ALTERNATING HITTING FLOOR
1D9D5|SIGNWRITING MOVEMENT-FLOORPLANE CURVE |SMALL|MEDIUM|LARGE|LARGEST|COMBINED
1D9DA|SIGNWRITING MOVEMENT-FLOORPLANE |HUMP SMALL|LOOP SMALL|WAVE SNAKE|WAVE SMALL|WAVE LARGE
1D9DF|SIGNWRITING ROTATION-FLOORPLANE |SINGLE|DOUBLE|ALTERNATING
1D9E2||SIGNWRITING MOVEMENT-FLOORPLANE SHAKING PARALLEL
1D9E3|SIGNWRITING MOVEMENT-WALLPLANE ARM CIRCLE |SMALL SINGLE|MEDIUM SINGLE|SMALL DOUBLE|MEDIUM DOUBLE
1D9E7|SIGNWRITING MOVEMENT-FLOORPLANE ARM CIRCLE HITTING WALL |SMALL SINGLE|MEDIUM SINGLE|LARGE SINGLE
1D9EA|SIGNWRITING MOVEMENT-FLOORPLANE ARM CIRCLE HITTING WALL |SMALL DOUBLE|MEDIUM DOUBLE|LARGE DOUBLE
1D9ED|SIGNWRITING MOVEMENT-WALLPLANE WRIST CIRCLE FRONT |SINGLE|DOUBLE
1D9EF|SIGNWRITING MOVEMENT-FLOORPLANE WRIST CIRCLE HITTING WALL |SINGLE|DOUBLE
1D9F1|SIGNWRITING MOVEMENT-WALLPLANE FINGER CIRCLES |SINGLE|DOUBLE
1D9F3|SIGNWRITING MOVEMENT-FLOORPLANE FINGER CIRCLES HITTING WALL |SINGLE|DOUBLE
1D9F5|SIGNWRITING DYNAMIC |ARROWHEAD SMALL|ARROWHEAD LARGE|FAST
1D9F8|SIGNWRITING DYNAMIC |SLOW|TENSE|RELAXED|SIMULTANEOUS|SIMULTANEOUS ALTERNATING|EVERY OTHER TIME|GRADUAL
1D9FF|SIGNWRITING HEAD|| RIM| MOVEMENT-WALLPLANE STRAIGHT| MOVEMENT-WALLPLANE TILT
1DA03|SIGNWRITING HEAD MOVEMENT|-FLOORPLANE STRAIGHT|-WALLPLANE CURVE|-FLOORPLANE CURVE| CIRCLE
1DA07|SIGNWRITING FACE DIRECTION POSITION NOSE |FORWARD TILTING|UP OR DOWN|UP OR DOWN TILTING
1DA0A|SIGNWRITING EYEBROWS STRAIGHT |UP|NEUTRAL|DOWN
1DA0D|SIGNWRITING DREAMY EYEBROWS |NEUTRAL DOWN|DOWN NEUTRAL|UP NEUTRAL|NEUTRAL UP
1DA11|SIGNWRITING FOREHEAD |NEUTRAL|CONTACT|WRINKLED
1DA14|SIGNWRITING EYE|S OPEN|S SQUEEZED|S CLOSED| BLINK SINGLE| BLINK MULTIPLE|S HALF OPEN|S WIDE OPEN
1DA1B|SIGNWRITING EYE|S HALF CLOSED|S WIDENING MOVEMENT| WINK|LASHES UP|LASHES DOWN|LASHES FLUTTERING
1DA21|SIGNWRITING EYEGAZE-WALLPLANE STRAIGHT|| DOUBLE| ALTERNATING
1DA24|SIGNWRITING EYEGAZE-FLOORPLANE STRAIGHT|| DOUBLE| ALTERNATING
1DA27|SIGNWRITING EYEGAZE-|WALLPLANE CURVED|FLOORPLANE CURVED|WALLPLANE CIRCLING
1DA2A|SIGNWRITING CHEEKS |PUFFED|NEUTRAL|SUCKED
1DA2D|SIGNWRITING TENSE CHEEKS |HIGH|MIDDLE|LOW
1DA30|SIGNWRITING |EARS|NOSE NEUTRAL|NOSE CONTACT|NOSE WRINKLES|NOSE WIGGLES|AIR BLOWING OUT|AIR SUCKING IN
1DA37|SIGNWRITING |AIR BLOW SMALL ROTATIONS|AIR SUCK SMALL ROTATIONS|BREATH INHALE|BREATH EXHALE
1DA3B|SIGNWRITING MOUTH CLOSED |NEUTRAL|FORWARD|CONTACT
1DA3E|SIGNWRITING MOUTH |SMILE|SMILE WRINKLED|SMILE OPEN|FROWN|FROWN WRINKLED|FROWN OPEN|OPEN CIRCLE
1DA45|SIGNWRITING MOUTH OPEN |FORWARD|WRINKLED|OVAL|OVAL WRINKLED|OVAL YAWN|RECTANGLE|RECTANGLE WRINKLED
1DA4C|SIGNWRITING MOUTH |OPEN RECTANGLE YAWN|KISS|KISS FORWARD|KISS WRINKLED|TENSE|TENSE FORWARD|TENSE SUCKED
1DA53|SIGNWRITING LIP|S PRESSED TOGETHER| LOWER OVER UPPER| UPPER OVER LOWER
1DA56|SIGNWRITING MOUTH |CORNERS|WRINKLES SINGLE|WRINKLES DOUBLE
1DA59|SIGNWRITING TONGUE |STICKING OUT FAR|LICKING LIPS|TIP BETWEEN LIPS|TIP TOUCHING INSIDE MOUTH
1DA5D|SIGNWRITING TONGUE |INSIDE MOUTH RELAXED|MOVES AGAINST CHEEK|CENTRE STICKING OUT|CENTRE INSIDE MOUTH
1DA61|SIGNWRITING TEETH|| MOVEMENT| ON TONGUE| ON TONGUE MOVEMENT| ON LIPS| ON LIPS MOVEMENT| BITE LIPS
1DA68|SIGNWRITING |MOVEMENT-WALLPLANE JAW|MOVEMENT-FLOORPLANE JAW|NECK|HAIR|EXCITEMENT
1DA6D|SIGNWRITING SHOULDER HIP |SPINE|POSITIONS
1DA6F|SIGNWRITING |WALLPLANE SHOULDER HIP MOVE|FLOORPLANE SHOULDER HIP MOVE|SHOULDER TILTING FROM WAIST
1DA72|SIGNWRITING TORSO-WALLPLANE |STRAIGHT STRETCH|CURVED BEND
1DA74|SIGNWRITING |TORSO-FLOORPLANE TWISTING|UPPER BODY TILTING FROM HIP JOINTS|LIMB COMBINATION
1DA77|SIGNWRITING LIMB LENGTH-|1|2|3|4|5|6|7
1DA7E||SIGNWRITING FINGER
1DA7F|SIGNWRITING LOCATION|-WALLPLANE SPACE|-FLOORPLANE SPACE| HEIGHT| WIDTH| DEPTH| HEAD NECK| TORSO
1DA86|SIGNWRITING |LOCATION LIMBS DIGITS|COMMA|FULL STOP|SEMICOLON|COLON|PARENTHESIS
1DA9B|SIGNWRITING FILL MODIFIER-|2|3|4|5|6
1DAA1|SIGNWRITING ROTATION MODIFIER-|2|3|4|5|6|7|8|9|10|11|12|13|14|15|16
1DF00|LATIN SMALL LETTER |FENG DIGRAPH WITH TRILL|REVERSED SCRIPT G
1DF02|LATIN |LETTER SMALL CAPITAL TURNED G|SMALL LETTER REVERSED K|LETTER SMALL CAPITAL L WITH BELT
1DF05|LATIN SMALL LETTER |LEZH WITH RETROFLEX HOOK|TURNED Y WITH BELT|REVERSED ENG
1DF08|LATIN SMALL LETTER T|URNED R WITH LONG LEG AND RETROFLEX HOOK| WITH HOOK AND RETROFLEX HOOK
1DF0A||LATIN LETTER RETROFLEX CLICK WITH RETROFLEX HOOK
1DF0B|LATIN SMALL LETTER |ESH WITH DOUBLE BAR|ESH WITH DOUBLE BAR AND CURL|TURNED T WITH CURL
1DF0E|LATIN LETTER |INVERTED GLOTTAL STOP WITH CURL|STRETCHED C WITH CURL|SMALL CAPITAL TURNED K
1DF11|LATIN SMALL LETTER |L WITH FISHHOOK|DEZH DIGRAPH WITH PALATAL HOOK
1DF13|LATIN SMALL LETTER |L WITH BELT AND PALATAL HOOK|ENG WITH PALATAL HOOK|TURNED R WITH PALATAL HOOK
1DF16|LATIN SMALL LETTER |R WITH FISHHOOK AND PALATAL HOOK|TESH DIGRAPH WITH PALATAL HOOK
1DF18|LATIN SMALL LETTER |EZH WITH PALATAL HOOK|DEZH DIGRAPH WITH RETROFLEX HOOK
1DF1A|LATIN SMALL LETTER |I WITH STROKE AND RETROFLEX HOOK|O WITH RETROFLEX HOOK
1DF1C|LATIN SMALL LETTER |TESH DIGRAPH WITH RETROFLEX HOOK|C WITH RETROFLEX HOOK|S WITH CURL
1E000|COMBINING GLAGOLITIC LETTER |AZU|BUKY|VEDE|GLAGOLI|DOBRO|YESTU|ZHIVETE
1E008|COMBINING GLAGOLITIC LETTER |ZEMLJA|IZHE|INITIAL IZHE|I|DJERVI
1E00D|COMBINING GLAGOLITIC LETTER |KAKO|LJUDIJE|MYSLITE|NASHI|ONU|POKOJI|RITSI|SLOVO|TVRIDO|UKU|FRITU|HERU
1E01B|COMBINING GLAGOLITIC LETTER |SHTA|TSI|CHRIVI|SHA|YERU|YERI|YATI
1E023|COMBINING GLAGOLITIC LETTER |YU|SMALL YUS
1E026|COMBINING GLAGOLITIC LETTER |YO|IOTATED SMALL YUS|BIG YUS|IOTATED BIG YUS|FITA
1E100|NYIAKENG PUACHUE HMONG LETTER |MA|TSA
1E102|NYIAKENG PUACHUE HMONG LETTER |NTA|TA|HA|NA|XA|NKA|CA|LA|SA|ZA|NCA|NTSA|KA|DA|NYA|NRA|VA|NTXA|TXA|FA
1E116|NYIAKENG PUACHUE HMONG LETTER |RA|QA|YA|NQA|PA|XYA|NPA|DLA|NPLA|HAH|MLA|PLA|GA|RRA|A|AA|I|U|O|OO|E|EE|W
1E130|NYIAKENG PUACHUE HMONG TONE-|B|M|J|V|S|G|D
1E137|NYIAKENG PUACHUE HMONG SIGN FOR |PERSON|THING|LOCATION|ANIMAL|INVERTEBRATE
1E13C|NYIAKENG PUACHUE HMONG S|IGN XW XW|YLLABLE LENGTHENER
1E140|NYIAKENG PUACHUE HMONG DIGIT |ZERO|ONE|TWO|THREE|FOUR|FIVE|SIX|SEVEN|EIGHT|NINE
1E14E|NYIAKENG PUACHUE HMONG |LOGOGRAM NYAJ|CIRCLED CA
1E290|TOTO LETTER |PA|BA|TA|DA|KA|GA|MA|NA|NGA|SA|CHA
1E29B|TOTO LETTER |YA|WA|JA|HA|RA|LA|I|BREATHY I|IU|BREATHY IU|U|E|BREATHY E|EO|BREATHY EO|O|AE|BREATHY AE|A
1E2AE||TOTO SIGN RISING TONE
1E2C0|WANCHO LETTER |AA|A|BA|CA|DA|GA|YA|PHA|LA|NA|PA|TA|THA|FA|SA|SHA|JA|ZA
1E2D2|WANCHO LETTER |WA|VA|KA|O|AU|RA|MA|KHA|HA|E|I|NGA|U|LLHA|TSA|TRA|ONG|AANG|ANG|ING|ON|EN|AAN|NYA|UEN|YIH
1E2EC|WANCHO TONE |TUP|TUPNI|KOI|KOINI
1E2F0|WANCHO DIGIT |ZERO|ONE|TWO|THREE|FOUR|FIVE|SIX|SEVEN|EIGHT|NINE
1E2FF||WANCHO NGUN SIGN
1E7E0|ETHIOPIC SYLLABLE HHY|A|U|I|AA|EE|E|O
1E7E8|ETHIOPIC SYLLABLE |GURAGE HHWA|HHWI|HHWEE|HHWE
1E7ED|ETHIOPIC SYLLABLE GURAGE MW|I|EE
1E7F0|ETHIOPIC SYLLABLE GURAGE |QWI|QWEE|QWE|BWI|BWEE|KWI|KWEE|KWE|GWI|GWEE|GWE|FWI|FWEE|PWI|PWEE
1E800|MENDE KIKAKUI SYLLABLE M0|01 KI|02 KA|03 KU|65 KEE|95 KE|76 KOO|48 KO
1E807|MENDE KIKAKUI SYLLABLE M|179 KUA|004 WI|005 WA|006 WU|126 WEE|118 WE|114 WOO|045 WO|194 WUI|143 WEI
1E811|MENDE KIKAKUI SYLLABLE M|061 WVI|049 WVA|139 WVE|007 MIN|008 MAN|009 MUN|059 MEN|094 MON|154 MUAN
1E81A|MENDE KIKAKUI SYLLABLE M|189 MUEN|010 BI|011 BA|012 BU|150 BEE|097 BE|103 BOO|138 BO|013 I|014 A|015 U
1E825|MENDE KIKAKUI SYLLABLE M1|63 EE|00 E|65 OO|47 O|37 EI|31 IN|35 IN|95 AN|78 EN
1E82E|MENDE KIKAKUI SYLLABLE M|019 SI|020 SA|021 SU|162 SEE|116 SE|136 SOO|079 SO
1E835|MENDE KIKAKUI SYLLABLE M|196 SIA|025 LI|026 LA|027 LU|084 LEE|073 LE|054 LOO|153 LO|110 LONG LE|016 DI
1E83F|MENDE KIKAKUI SYLLABLE M|017 DA|018 DU|089 DEE|180 DOO|181 DO|022 TI|023 TA|024 TU|091 TEE|055 TE
1E849|MENDE KIKAKUI SYLLABLE M|104 TOO|069 TO|028 JI|029 JA|030 JU|157 JEE|113 JE|160 JOO|063 JO|175 LONG JO
1E853|MENDE KIKAKUI SYLLABLE M|031 YI|032 YA|033 YU|109 YEE|080 YE|141 YOO|121 YO|034 FI|035 FA|036 FU
1E85D|MENDE KIKAKUI SYLLABLE M|078 FEE|075 FE|133 FOO|088 FO|197 FUA|101 FAN|037 NIN|038 NAN|039 NUN|117 NEN
1E867|MENDE KIKAKUI SYLLABLE M|169 NON|176 HI|041 HA|186 HU|040 HEE|096 HE|042 HOO|140 HO|083 HEEI|128 HOOU
1E871|MENDE KIKAKUI SYLLABLE M|053 HIN|130 HAN|087 HUN|052 HEN|193 HON|046 HUAN|090 NGGI|043 NGGA|082 NGGU
1E87A|MENDE KIKAKUI SYLLABLE M|115 NGGEE|146 NGGE|156 NGGOO|120 NGGO|159 NGGAA|127 NGGUA|086 LONG NGGE
1E881|MENDE KIKAKUI SYLLABLE M1|06 LONG NGGOO|83 LONG NGGO|55 GI|11 GA|68 GU|90 GEE|66 GUEI|67 GUAN|84 NGEN
1E88A|MENDE KIKAKUI SYLLABLE M|057 NGON|177 NGUAN|068 PI|099 PA|050 PU|081 PEE|051 PE|102 POO|066 PO
1E893|MENDE KIKAKUI SYLLABLE M|145 MBI|062 MBA|122 MBU|047 MBEE|188 MBEE|072 MBE|172 MBOO|174 MBO|187 MBUU
1E89C|MENDE KIKAKUI SYLLABLE M|161 LONG MBE|105 LONG MBOO|142 LONG MBO|132 KPI|092 KPA|074 KPU|044 KPEE
1E8A3|MENDE KIKAKUI SYLLABLE M|108 KPE|112 KPOO|158 KPO|124 GBI|056 GBA|148 GBU|093 GBEE|107 GBE|071 GBOO
1E8AC|MENDE KIKAKUI SYLLABLE M|070 GBO|171 RA|123 NDI|129 NDA|125 NDU|191 NDEE|119 NDE|067 NDOO|064 NDO
1E8B5|MENDE KIKAKUI SYLLABLE M1|52 NJA|92 NJU|49 NJEE|34 NJOO|82 VI|85 VA|51 VU|73 VEE
1E8BD|MENDE KIKAKUI SYLLABLE M|085 VE|144 VOO|077 VO|164 NYIN|058 NYAN|170 NYUN|098 NYEN|060 NYON
1E8C7|MENDE KIKAKUI DIGIT |ONE|TWO|THREE|FOUR|FIVE|SIX|SEVEN|EIGHT|NINE
1E8D0|MENDE KIKAKUI COMBINING NUMBER |TEENS|TENS|HUNDREDS|THOUSANDS|TEN THOUSANDS|HUNDRED THOUSANDS|MILLIONS
1E900|ADLAM CAPITAL LETTER |ALIF|DAALI|LAAM|MIIM|BA|SINNYIIYHE|PE|BHE|RA|E|FA|I
1E90C|ADLAM CAPITAL LETTER |O|DHA|YHE|WAW|NUN|KAF|YA|U|JIIM|CHI|HA|QAAF|GA|NYA|TU|NHA|VA|KHA|GBE|ZAL|KPO|SHA
1E922|ADLAM SMALL LETTER |ALIF|DAALI|LAAM|MIIM|BA|SINNYIIYHE|PE|BHE|RA|E|FA
1E92D|ADLAM SMALL LETTER |I|O|DHA|YHE|WAW|NUN|KAF|YA|U|JIIM|CHI|HA|QAAF|GA|NYA|TU|NHA|VA|KHA|GBE|ZAL|KPO|SHA
1E944|ADLAM |ALIF LENGTHENER|VOWEL LENGTHENER
1E946|ADLAM |GEMINATION MARK|HAMZA|CONSONANT MODIFIER|GEMINATE CONSONANT MODIFIER|NUKTA|NASALIZATION MARK
1E950|ADLAM DIGIT |ZERO|ONE|TWO|THREE|FOUR|FIVE|SIX|SEVEN|EIGHT|NINE
1E95E|ADLAM INITIAL |EXCLAMATION MARK|QUESTION MARK
1EC71|INDIC SIYAQ NUMBER |ONE|TWO|THREE|FOUR|FIVE|SIX|SEVEN|EIGHT|NINE|TEN|TWENTY|THIRTY|FORTY|FIFTY
1EC7F|INDIC SIYAQ NUMBER |SIXTY|SEVENTY|EIGHTY|NINETY|ONE HUNDRED|TWO HUNDRED|THREE HUNDRED|FOUR HUNDRED
1EC87|INDIC SIYAQ NUMBER |FIVE HUNDRED|SIX HUNDRED|SEVEN HUNDRED|EIGHT HUNDRED|NINE HUNDRED|ONE THOUSAND
1EC8D|INDIC SIYAQ NUMBER |TWO THOUSAND|THREE THOUSAND|FOUR THOUSAND|FIVE THOUSAND|SIX THOUSAND|SEVEN THOUSAND
1EC93|INDIC SIYAQ NUMBER |EIGHT THOUSAND|NINE THOUSAND|TEN THOUSAND|TWENTY THOUSAND|THIRTY THOUSAND
1EC98|INDIC SIYAQ NUMBER |FORTY THOUSAND|FIFTY THOUSAND|SIXTY THOUSAND|SEVENTY THOUSAND|EIGHTY THOUSAND
1EC9D|INDIC SIYAQ |NUMBER NINETY THOUSAND|NUMBER LAKH|NUMBER LAKHAN|LAKH MARK|NUMBER KAROR|NUMBER KARORAN
1ECA3|INDIC SIYAQ NUMBER PREFIXED |ONE|TWO|THREE|FOUR|FIVE|SIX|SEVEN|EIGHT|NINE
1ECAC|INDIC SIYAQ |PLACEHOLDER|FRACTION ONE QUARTER|FRACTION ONE HALF|FRACTION THREE QUARTERS|RUPEE MARK
1ECB1|INDIC SIYAQ NUMBER ALTERNATE |ONE|TWO|TEN THOUSAND
1ECB4||INDIC SIYAQ ALTERNATE LAKH MARK
1ED01|OTTOMAN SIYAQ NUMBER |ONE|TWO|THREE|FOUR|FIVE|SIX|SEVEN|EIGHT|NINE|TEN|TWENTY|THIRTY
1ED0D|OTTOMAN SIYAQ NUMBER |FORTY|FIFTY|SIXTY|SEVENTY|EIGHTY|NINETY|ONE HUNDRED|TWO HUNDRED|THREE HUNDRED
1ED16|OTTOMAN SIYAQ NUMBER |FOUR HUNDRED|FIVE HUNDRED|SIX HUNDRED|SEVEN HUNDRED|EIGHT HUNDRED|NINE HUNDRED
1ED1C|OTTOMAN SIYAQ NUMBER |ONE THOUSAND|TWO THOUSAND|THREE THOUSAND|FOUR THOUSAND|FIVE THOUSAND|SIX THOUSAND
1ED22|OTTOMAN SIYAQ NUMBER |SEVEN THOUSAND|EIGHT THOUSAND|NINE THOUSAND|TEN THOUSAND|TWENTY THOUSAND
1ED27|OTTOMAN SIYAQ NUMBER |THIRTY THOUSAND|FORTY THOUSAND|FIFTY THOUSAND|SIXTY THOUSAND|SEVENTY THOUSAND
1ED2C|OTTOMAN SIYAQ |NUMBER EIGHTY THOUSAND|NUMBER NINETY THOUSAND|MARRATAN
1ED2F|OTTOMAN SIYAQ ALTERNATE NUMBER |TWO|THREE|FOUR|FIVE|SIX|SEVEN|EIGHT|NINE|TEN|FOUR HUNDRED|SIX HUNDRED
1ED3A|OTTOMAN SIYAQ ALTERNATE NUMBER T|WO THOUSAND|EN THOUSAND
1ED3C|OTTOMAN SIYAQ FRACTION ONE |HALF|SIXTH
1EE00|ARABIC MATHEMATICAL |ALEF|BEH|JEEM|DAL
1EE05|ARABIC MATHEMATICAL |WAW|ZAIN|HAH|TAH|YEH|KAF|LAM|MEEM|NOON|SEEN|AIN|FEH|SAD|QAF|REH|SHEEN
1EE15|ARABIC MATHEMATICAL |TEH|THEH|KHAH|THAL|DAD|ZAH|GHAIN|DOTLESS BEH|DOTLESS NOON|DOTLESS FEH|DOTLESS QAF
1EE21|ARABIC MATHEMATICAL INITIAL |BEH|JEEM
1EE24||ARABIC MATHEMATICAL INITIAL HEH
1EE27||ARABIC MATHEMATICAL INITIAL HAH
1EE29|ARABIC MATHEMATICAL INITIAL |YEH|KAF|LAM|MEEM|NOON|SEEN|AIN|FEH|SAD|QAF
1EE34|ARABIC MATHEMATICAL INITIAL |SHEEN|TEH|THEH|KHAH
1EE39||ARABIC MATHEMATICAL INITIAL DAD
1EE3B||ARABIC MATHEMATICAL INITIAL GHAIN
1EE42||ARABIC MATHEMATICAL TAILED JEEM
1EE47||ARABIC MATHEMATICAL TAILED HAH
1EE49||ARABIC MATHEMATICAL TAILED YEH
1EE4B||ARABIC MATHEMATICAL TAILED LAM
1EE4D|ARABIC MATHEMATICAL TAILED |NOON|SEEN|AIN
1EE51|ARABIC MATHEMATICAL TAILED |SAD|QAF
1EE54||ARABIC MATHEMATICAL TAILED SHEEN
1EE57||ARABIC MATHEMATICAL TAILED KHAH
1EE59||ARABIC MATHEMATICAL TAILED DAD
1EE5B||ARABIC MATHEMATICAL TAILED GHAIN
1EE5D||ARABIC MATHEMATICAL TAILED DOTLESS NOON
1EE5F||ARABIC MATHEMATICAL TAILED DOTLESS QAF
1EE61|ARABIC MATHEMATICAL STRETCHED |BEH|JEEM
1EE64||ARABIC MATHEMATICAL STRETCHED HEH
1EE67|ARABIC MATHEMATICAL STRETCHED |HAH|TAH|YEH|KAF
1EE6C|ARABIC MATHEMATICAL STRETCHED |MEEM|NOON|SEEN|AIN|FEH|SAD|QAF
1EE74|ARABIC MATHEMATICAL STRETCHED |SHEEN|TEH|THEH|KHAH
1EE79|ARABIC MATHEMATICAL STRETCHED |DAD|ZAH|GHAIN|DOTLESS BEH
1EE7E||ARABIC MATHEMATICAL STRETCHED DOTLESS FEH
1EE80|ARABIC MATHEMATICAL LOOPED |ALEF|BEH|JEEM|DAL|HEH|WAW|ZAIN|HAH|TAH|YEH
1EE8B||ARABIC MATHEMATICAL LOOPED LAM
1EE8C|ARABIC MATHEMATICAL LOOPED |MEEM|NOON|SEEN|AIN|FEH|SAD|QAF|REH|SHEEN|TEH|THEH|KHAH|THAL|DAD|ZAH|GHAIN
1EEA1|ARABIC MATHEMATICAL DOUBLE-STRUCK |BEH|JEEM|DAL
1EEA5|ARABIC MATHEMATICAL DOUBLE-STRUCK |WAW|ZAIN|HAH|TAH|YEH
1EEAB|ARABIC MATHEMATICAL DOUBLE-STRUCK |LAM|MEEM
1EEAD|ARABIC MATHEMATICAL DOUBLE-STRUCK |NOON|SEEN|AIN|FEH|SAD|QAF|REH|SHEEN|TEH|THEH|KHAH|THAL|DAD|ZAH|GHAIN
1EEF0|ARABIC MATHEMATICAL OPERATOR |MEEM WITH HAH WITH TATWEEL|HAH WITH DAL
1F000|MAHJONG TILE |EAST WIND|SOUTH WIND|WEST WIND
1F003|MAHJONG TILE |NORTH WIND|RED DRAGON|GREEN DRAGON|WHITE DRAGON|ONE OF CHARACTERS|TWO OF CHARACTERS
1F009|MAHJONG TILE |THREE OF CHARACTERS|FOUR OF CHARACTERS|FIVE OF CHARACTERS|SIX OF CHARACTERS
1F00D|MAHJONG TILE |SEVEN OF CHARACTERS|EIGHT OF CHARACTERS|NINE OF CHARACTERS|ONE OF BAMBOOS|TWO OF BAMBOOS
1F012|MAHJONG TILE |THREE OF BAMBOOS|FOUR OF BAMBOOS|FIVE OF BAMBOOS|SIX OF BAMBOOS|SEVEN OF BAMBOOS
1F017|MAHJONG TILE |EIGHT OF BAMBOOS|NINE OF BAMBOOS|ONE OF CIRCLES|TWO OF CIRCLES|THREE OF CIRCLES
1F01C|MAHJONG TILE |FOUR OF CIRCLES|FIVE OF CIRCLES|SIX OF CIRCLES|SEVEN OF CIRCLES|EIGHT OF CIRCLES
1F021|MAHJONG TILE |NINE OF CIRCLES|PLUM|ORCHID|BAMBOO|CHRYSANTHEMUM|SPRING|SUMMER|AUTUMN|WINTER|JOKER|BACK
1F030||DOMINO TILE HORIZONTAL BACK
1F031|DOMINO TILE HORIZONTAL-00-0|0|1|2|3|4|5|6
1F038|DOMINO TILE HORIZONTAL-01-0|0|1|2|3|4|5|6
1F03F|DOMINO TILE HORIZONTAL-02-0|0|1|2|3|4|5|6
1F046|DOMINO TILE HORIZONTAL-03-0|0|1|2|3|4|5|6
1F04D|DOMINO TILE HORIZONTAL-04-0|0|1|2|3|4|5|6
1F054|DOMINO TILE HORIZONTAL-05-0|0|1|2|3|4|5|6
1F05B|DOMINO TILE HORIZONTAL-06-0|0|1|2|3|4|5|6
1F062||DOMINO TILE VERTICAL BACK
1F063|DOMINO TILE VERTICAL-00-0|0|1|2|3|4|5|6
1F06A|DOMINO TILE VERTICAL-01-0|0|1|2|3|4|5|6
1F071|DOMINO TILE VERTICAL-02-0|0|1|2|3|4|5|6
1F078|DOMINO TILE VERTICAL-03-0|0|1|2|3|4|5|6
1F07F|DOMINO TILE VERTICAL-04-0|0|1|2|3|4|5|6
1F086|DOMINO TILE VERTICAL-05-0|0|1|2|3|4|5|6
1F08D|DOMINO TILE VERTICAL-06-0|0|1|2|3|4|5|6
1F0A0|PLAYING CARD |BACK|ACE OF SPADES|TWO OF SPADES|THREE OF SPADES|FOUR OF SPADES
1F0A5|PLAYING CARD |FIVE OF SPADES|SIX OF SPADES|SEVEN OF SPADES|EIGHT OF SPADES|NINE OF SPADES
1F0AA|PLAYING CARD |TEN OF SPADES|JACK OF SPADES|KNIGHT OF SPADES|QUEEN OF SPADES|KING OF SPADES
1F0B1|PLAYING CARD |ACE OF HEARTS|TWO OF HEARTS|THREE OF HEARTS|FOUR OF HEARTS
1F0B5|PLAYING CARD |FIVE OF HEARTS|SIX OF HEARTS|SEVEN OF HEARTS|EIGHT OF HEARTS|NINE OF HEARTS
1F0BA|PLAYING CARD |TEN OF HEARTS|JACK OF HEARTS|KNIGHT OF HEARTS|QUEEN OF HEARTS|KING OF HEARTS|RED JOKER
1F0C1|PLAYING CARD |ACE OF DIAMONDS|TWO OF DIAMONDS|THREE OF DIAMONDS|FOUR OF DIAMONDS|FIVE OF DIAMONDS
1F0C6|PLAYING CARD |SIX OF DIAMONDS|SEVEN OF DIAMONDS|EIGHT OF DIAMONDS|NINE OF DIAMONDS|TEN OF DIAMONDS
1F0CB|PLAYING CARD |JACK OF DIAMONDS|KNIGHT OF DIAMONDS|QUEEN OF DIAMONDS|KING OF DIAMONDS|BLACK JOKER
1F0D1|PLAYING CARD |ACE OF CLUBS|TWO OF CLUBS|THREE OF CLUBS
1F0D4|PLAYING CARD |FOUR OF CLUBS|FIVE OF CLUBS|SIX OF CLUBS|SEVEN OF CLUBS|EIGHT OF CLUBS|NINE OF CLUBS
1F0DA|PLAYING CARD |TEN OF CLUBS|JACK OF CLUBS|KNIGHT OF CLUBS|QUEEN OF CLUBS|KING OF CLUBS|WHITE JOKER|FOOL
1F0E1|PLAYING CARD TRUMP-|1|2|3|4|5|6|7|8|9|10|11|12|13|14|15|16|17|18|19|20|21
1F100|DIGIT |ZERO FULL STOP|ZERO COMMA|ONE COMMA
1F103|DIGIT |TWO COMMA|THREE COMMA|FOUR COMMA|FIVE COMMA|SIX COMMA|SEVEN COMMA|EIGHT COMMA|NINE COMMA
1F10B|DINGBAT |CIRCLED SANS-SERIF DIGIT ZERO|NEGATIVE CIRCLED SANS-SERIF DIGIT ZERO
1F10D|CIRCLED |ZERO WITH SLASH|ANTICLOCKWISE ARROW|DOLLAR SIGN WITH OVERLAID BACKSLASH
1F110|PARENTHESIZED LATIN CAPITAL LETTER |A|B|C|D|E|F|G|H|I|J|K|L|M|N|O|P|Q|R|S|T|U|V|W|X|Y|Z
1F12A||TORTOISE SHELL BRACKETED LATIN CAPITAL LETTER S
1F12B|CIRCLED ITALIC LATIN CAPITAL LETTER |C|R
1F12D|C|IRCLED CD|IRCLED WZ|OPYLEFT SYMBOL
1F130|SQUARED LATIN CAPITAL LETTER |A|B|C|D|E|F|G|H|I|J|K|L|M|N|O|P|Q|R|S|T|U|V|W|X|Y|Z
1F14A|SQUARED |HV|MV|SD|SS|PPV|WC
1F150|NEGATIVE CIRCLED LATIN CAPITAL LETTER |A|B|C|D|E|F|G|H|I|J|K|L|M|N|O|P|Q|R|S|T|U|V|W|X|Y|Z
1F16A|RAISED M|C SIGN|D SIGN|R SIGN
1F16D|CIRCLED |CC|C WITH OVERLAID BACKSLASH|HUMAN FIGURE
1F170|NEGATIVE SQUARED LATIN CAPITAL LETTER |A|B|C|D|E|F|G|H|I|J|K|L|M|N|O|P|Q|R|S|T|U|V|W|X|Y|Z
1F18A||CROSSED NEGATIVE SQUARED LATIN CAPITAL LETTER P
1F18B|NEGATIVE SQUARED |IC|PA|SA|AB|WC
1F190||SQUARE DJ
1F191|SQUARED |CL|COOL|FREE|ID|NEW|NG|OK|SOS|UP WITH EXCLAMATION MARK|VS
1F19B|SQUARED |THREE D|SECOND SCREEN|TWO K|FOUR K|EIGHT K|FIVE POINT ONE|SEVEN POINT ONE|TWENTY-TWO POINT TWO
1F1A3|SQUARED |SIXTY P|ONE HUNDRED TWENTY P|LATIN SMALL LETTER D|HC|HDR|HI-RES|LOSSLESS|SHV|UHD|VOD
1F1AD||MASK WORK SYMBOL
1F1E6|REGIONAL INDICATOR SYMBOL LETTER |A|B|C|D|E|F|G|H|I|J|K|L|M|N|O|P|Q|R|S|T|U|V|W|X|Y|Z
1F200|SQUARE| HIRAGANA HOKA|D KATAKANA KOKO|D KATAKANA SA
1F210|SQUARED CJK UNIFIED IDEOGRAPH-|624B|5B57|53CC
1F213||SQUARED KATAKANA DE
1F214|SQUARED CJK UNIFIED IDEOGRAPH-|4E8C|591A|89E3|5929|4EA4|6620|7121|6599|524D|5F8C|518D|65B0
1F220|SQUARED CJK UNIFIED IDEOGRAPH-|521D|7D42|751F|8CA9|58F0|5439|6F14|6295|6355|4E00|4E09|904A|5DE6|4E2D
1F22E|SQUARED CJK UNIFIED IDEOGRAPH-|53F3|6307|8D70|6253|7981|7A7A|5408|6E80|6709|6708|7533|5272|55B6|914D
1F240|TORTOISE SHELL BRACKETED CJK UNIFIED IDEOGRAPH-|672C|4E09|4E8C|5B89|70B9|6253|76D7|52DD|6557
1F250|CIRCLED IDEOGRAPH A|DVANTAGE|CCEPT
1F260|ROUNDED SYMBOL FOR |FU|LU|SHOU|XI|SHUANGXI|CAI
1F300||CYCLONE|FOGGY|CLOSED UMBRELLA|NIGHT WITH STARS
1F304|SUNRISE| OVER MOUNTAINS|
1F306||CITYSCAPE AT DUSK|SUNSET OVER BUILDINGS|RAINBOW
1F309||BRIDGE AT NIGHT|WATER WAVE|VOLCANO|MILKY WAY
1F30D|EARTH GLOBE |EUROPE-AFRICA|AMERICAS|ASIA-AUSTRALIA
1F310||GLOBE WITH MERIDIANS|NEW MOON SYMBOL|WAXING CRESCENT MOON SYMBOL
1F313||FIRST QUARTER MOON SYMBOL|WAXING GIBBOUS MOON SYMBOL|FULL MOON SYMBOL|WANING GIBBOUS MOON SYMBOL
1F317||LAST QUARTER MOON SYMBOL|WANING CRESCENT MOON SYMBOL|CRESCENT MOON|NEW MOON WITH FACE
1F31B||FIRST QUARTER MOON WITH FACE|LAST QUARTER MOON WITH FACE|FULL MOON WITH FACE|SUN WITH FACE
1F31F||GLOWING STAR|SHOOTING STAR|THERMOMETER|BLACK DROPLET
1F323|WHITE SUN|| WITH SMALL CLOUD| BEHIND CLOUD| BEHIND CLOUD WITH RAIN
1F327|CLOUD WITH |RAIN|SNOW|LIGHTNING|TORNADO
1F32B||FOG|WIND BLOWING FACE|HOT DOG
1F32E||TACO|BURRITO|CHESTNUT|SEEDLING
1F332||EVERGREEN TREE|DECIDUOUS TREE|PALM TREE|CACTUS
1F336||HOT PEPPER|TULIP|CHERRY BLOSSOM|ROSE
1F33A||HIBISCUS|SUNFLOWER|BLOSSOM|EAR OF MAIZE
1F33E||EAR OF RICE|HERB|FOUR LEAF CLOVER|MAPLE LEAF
1F342||FALLEN LEAF|LEAF FLUTTERING IN WIND|MUSHROOM|TOMATO
1F346||AUBERGINE|GRAPES|MELON|WATERMELON
1F34A||TANGERINE|LEMON|BANANA|PINEAPPLE
1F34E||RED APPLE|GREEN APPLE|PEAR|PEACH
1F352||CHERRIES|STRAWBERRY|HAMBURGER|SLICE OF PIZZA
1F356||MEAT ON BONE|POULTRY LEG|RICE CRACKER|RICE BALL
1F35A||COOKED RICE|CURRY AND RICE|STEAMING BOWL|SPAGHETTI
1F35E||BREAD|FRENCH FRIES|ROASTED SWEET POTATO|DANGO
1F362||ODEN|SUSHI|FRIED SHRIMP|FISH CAKE WITH SWIRL DESIGN
1F366||SOFT ICE CREAM|SHAVED ICE|ICE CREAM|DOUGHNUT
1F36A||COOKIE|CHOCOLATE BAR|CANDY|LOLLIPOP
1F36E||CUSTARD|HONEY POT|SHORTCAKE|BENTO BOX
1F372||POT OF FOOD|COOKING|FORK AND KNIFE|TEACUP WITHOUT HANDLE
1F376||SAKE BOTTLE AND CUP|WINE GLASS|COCKTAIL GLASS|TROPICAL DRINK
1F37A||BEER MUG|CLINKING BEER MUGS|BABY BOTTLE|FORK AND KNIFE WITH PLATE
1F37E||BOTTLE WITH POPPING CORK|POPCORN|RIBBON|WRAPPED PRESENT
1F382||BIRTHDAY CAKE|JACK-O-LANTERN|CHRISTMAS TREE|FATHER CHRISTMAS
1F386|FIREWORK|S| SPARKLER
1F388||BALLOON|PARTY POPPER|CONFETTI BALL|TANABATA TREE
1F38C||CROSSED FLAGS|PINE DECORATION|JAPANESE DOLLS|CARP STREAMER
1F390||WIND CHIME|MOON VIEWING CEREMONY|SCHOOL SATCHEL|GRADUATION CAP
1F394||HEART WITH TIP ON THE LEFT|BOUQUET OF FLOWERS|MILITARY MEDAL|REMINDER RIBBON
1F398||MUSICAL KEYBOARD WITH JACKS|STUDIO MICROPHONE|LEVEL SLIDER|CONTROL KNOBS
1F39C|BEAMED |ASCENDING MUSICAL NOTES|DESCENDING MUSICAL NOTES
1F39E||FILM FRAMES|ADMISSION TICKETS|CAROUSEL HORSE
1F3A1||FERRIS WHEEL|ROLLER COASTER|FISHING POLE AND FISH|MICROPHONE
1F3A5||MOVIE CAMERA|CINEMA|HEADPHONE|ARTIST PALETTE
1F3A9||TOP HAT|CIRCUS TENT|TICKET|CLAPPER BOARD
1F3AD||PERFORMING ARTS|VIDEO GAME|DIRECT HIT|SLOT MACHINE
1F3B1||BILLIARDS|GAME DIE|BOWLING|FLOWER PLAYING CARDS
1F3B5||MUSICAL NOTE|MULTIPLE MUSICAL NOTES|SAXOPHONE|GUITAR
1F3B9||MUSICAL KEYBOARD|TRUMPET|VIOLIN|MUSICAL SCORE
1F3BD||RUNNING SHIRT WITH SASH|TENNIS RACQUET AND BALL|SKI AND SKI BOOT|BASKETBALL AND HOOP
1F3C1||CHEQUERED FLAG|SNOWBOARDER|RUNNER|SURFER
1F3C5||SPORTS MEDAL|TROPHY|HORSE RACING|AMERICAN FOOTBALL
1F3C9||RUGBY FOOTBALL|SWIMMER|WEIGHT LIFTER|GOLFER
1F3CD|RACING |MOTORCYCLE|CAR
1F3CF||CRICKET BAT AND BALL|VOLLEYBALL|FIELD HOCKEY STICK AND BALL|ICE HOCKEY STICK AND PUCK
1F3D3||TABLE TENNIS PADDLE AND BALL|SNOW CAPPED MOUNTAIN|CAMPING|BEACH WITH UMBRELLA
1F3D7||BUILDING CONSTRUCTION|HOUSE BUILDINGS|CITYSCAPE|DERELICT HOUSE BUILDING
1F3DB||CLASSICAL BUILDING|DESERT|DESERT ISLAND|NATIONAL PARK
1F3DF||STADIUM|HOUSE BUILDING|HOUSE WITH GARDEN|OFFICE BUILDING
1F3E3||JAPANESE POST OFFICE|EUROPEAN POST OFFICE|HOSPITAL|BANK
1F3E7||AUTOMATED TELLER MACHINE|HOTEL|LOVE HOTEL|CONVENIENCE STORE
1F3EB||SCHOOL|DEPARTMENT STORE|FACTORY|IZAKAYA LANTERN
1F3EF||JAPANESE CASTLE|EUROPEAN CASTLE|WHITE PENNANT|BLACK PENNANT
1F3F3||WAVING WHITE FLAG|WAVING BLACK FLAG|ROSETTE|BLACK ROSETTE
1F3F7||LABEL|BADMINTON RACQUET AND SHUTTLECOCK|BOW AND ARROW|AMPHORA
1F3FB|EMOJI MODIFIER FITZPATRICK TYPE-|1-2|3|4|5|6
1F400||RAT|MOUSE|OX|WATER BUFFALO
1F404||COW|TIGER|LEOPARD|RABBIT
1F408||CAT|DRAGON|CROCODILE|WHALE
1F40C|SNA|IL|KE
1F40E||HORSE|RAM|GOAT|SHEEP
1F412||MONKEY|ROOSTER|CHICKEN|DOG
1F416||PIG|BOAR|ELEPHANT|OCTOPUS
1F41A||SPIRAL SHELL|BUG|ANT|HONEYBEE
1F41E||LADY BEETLE|FISH|TROPICAL FISH|BLOWFISH
1F422||TURTLE|HATCHING CHICK|BABY CHICK|FRONT-FACING BABY CHICK
1F426||BIRD|PENGUIN|KOALA|POODLE
1F42A||DROMEDARY CAMEL|BACTRIAN CAMEL|DOLPHIN|MOUSE FACE
1F42E||COW FACE|TIGER FACE|RABBIT FACE|CAT FACE
1F432||DRAGON FACE|SPOUTING WHALE|HORSE FACE|MONKEY FACE
1F436||DOG FACE|PIG FACE|FROG FACE|HAMSTER FACE
1F43A||WOLF FACE|BEAR FACE|PANDA FACE|PIG NOSE
1F43E||PAW PRINTS|CHIPMUNK|EYES|EYE
1F442||EAR|NOSE|MOUTH|TONGUE
1F446|WHITE |UP POINTING BACKHAND INDEX|DOWN POINTING BACKHAND INDEX|LEFT POINTING BACKHAND INDEX
1F449||WHITE RIGHT POINTING BACKHAND INDEX|FISTED HAND SIGN|WAVING HAND SIGN|OK HAND SIGN
1F44D|THUMBS |UP SIGN|DOWN SIGN
1F44F||CLAPPING HANDS SIGN|OPEN HANDS SIGN|CROWN
1F452||WOMANS HAT|EYEGLASSES|NECKTIE|T-SHIRT
1F456||JEANS|DRESS|KIMONO|BIKINI
1F45A||WOMANS CLOTHES|PURSE|HANDBAG|POUCH
1F45E||MANS SHOE|ATHLETIC SHOE|HIGH-HEELED SHOE|WOMANS SANDAL
1F462||WOMANS BOOTS|FOOTPRINTS|BUST IN SILHOUETTE|BUSTS IN SILHOUETTE
1F466||BOY|GIRL|MAN|WOMAN
1F46A||FAMILY|MAN AND WOMAN HOLDING HANDS|TWO MEN HOLDING HANDS|TWO WOMEN HOLDING HANDS
1F46E||POLICE OFFICER|WOMAN WITH BUNNY EARS|BRIDE WITH VEIL|PERSON WITH BLOND HAIR
1F472|MAN WITH |GUA PI MAO|TURBAN
1F474|OLDER |MAN|WOMAN
1F476||BABY|CONSTRUCTION WORKER|PRINCESS
1F479|JAPANESE |OGRE|GOBLIN
1F47B||GHOST|BABY ANGEL|EXTRATERRESTRIAL ALIEN|ALIEN MONSTER
1F47F||IMP|SKULL|INFORMATION DESK PERSON|GUARDSMAN
1F483||DANCER|LIPSTICK|NAIL POLISH|FACE MASSAGE
1F487||HAIRCUT|BARBER POLE|SYRINGE|PILL
1F48B||KISS MARK|LOVE LETTER|RING|GEM STONE
1F48F||KISS|BOUQUET|COUPLE WITH HEART|WEDDING
1F493|B|EATING HEART|ROKEN HEART
1F495||TWO HEARTS|SPARKLING HEART|GROWING HEART
1F498||HEART WITH ARROW|BLUE HEART|GREEN HEART|YELLOW HEART
1F49C||PURPLE HEART|HEART WITH RIBBON|REVOLVING HEARTS|HEART DECORATION
1F4A0||DIAMOND SHAPE WITH A DOT INSIDE|ELECTRIC LIGHT BULB|ANGER SYMBOL|BOMB
1F4A4||SLEEPING SYMBOL|COLLISION SYMBOL|SPLASHING SWEAT SYMBOL|DROPLET
1F4A8||DASH SYMBOL|PILE OF POO|FLEXED BICEPS|DIZZY SYMBOL
1F4AC||SPEECH BALLOON|THOUGHT BALLOON|WHITE FLOWER|HUNDRED POINTS SYMBOL
1F4B0||MONEY BAG|CURRENCY EXCHANGE|HEAVY DOLLAR SIGN|CREDIT CARD
1F4B4|BANKNOTE WITH |YEN SIGN|DOLLAR SIGN|EURO SIGN|POUND SIGN
1F4B8||MONEY WITH WINGS|CHART WITH UPWARDS TREND AND YEN SIGN|SEAT|PERSONAL COMPUTER
1F4BC||BRIEFCASE|MINIDISC|FLOPPY DISK|OPTICAL DISC
1F4C0||DVD|FILE FOLDER|OPEN FILE FOLDER|PAGE WITH CURL
1F4C4||PAGE FACING UP|CALENDAR|TEAR-OFF CALENDAR|CARD INDEX
1F4C8|CHART WITH |UPWARDS TREND|DOWNWARDS TREND
1F4CA||BAR CHART|CLIPBOARD|PUSHPIN|ROUND PUSHPIN
1F4CE||PAPERCLIP|STRAIGHT RULER|TRIANGULAR RULER|BOOKMARK TABS
1F4D2||LEDGER|NOTEBOOK|NOTEBOOK WITH DECORATIVE COVER|CLOSED BOOK
1F4D6||OPEN BOOK|GREEN BOOK|BLUE BOOK|ORANGE BOOK
1F4DA||BOOKS|NAME BADGE|SCROLL|MEMO
1F4DE||TELEPHONE RECEIVER|PAGER|FAX MACHINE|SATELLITE ANTENNA
1F4E2||PUBLIC ADDRESS LOUDSPEAKER|CHEERING MEGAPHONE|OUTBOX TRAY|INBOX TRAY
1F4E6||PACKAGE|E-MAIL SYMBOL|INCOMING ENVELOPE|ENVELOPE WITH DOWNWARDS ARROW ABOVE
1F4EA|CLOSED MAILBOX WITH |LOWERED FLAG|RAISED FLAG
1F4EC|OPEN MAILBOX WITH |RAISED FLAG|LOWERED FLAG
1F4EE||POSTBOX|POSTAL HORN|NEWSPAPER
1F4F1|MOBILE PHONE|| WITH RIGHTWARDS ARROW AT LEFT
1F4F3||VIBRATION MODE|MOBILE PHONE OFF|NO MOBILE PHONES|ANTENNA WITH BARS
1F4F7|CAMERA|| WITH FLASH
1F4F9||VIDEO CAMERA|TELEVISION|RADIO|VIDEOCASSETTE
1F4FD||FILM PROJECTOR|PORTABLE STEREO|PRAYER BEADS|TWISTED RIGHTWARDS ARROWS
1F501|CLOCKWISE RIGHTWARDS AND LEFTWARDS OPEN CIRCLE ARROWS|| WITH CIRCLED ONE OVERLAY
1F503||CLOCKWISE DOWNWARDS AND UPWARDS OPEN CIRCLE ARROWS
1F504||ANTICLOCKWISE DOWNWARDS AND UPWARDS OPEN CIRCLE ARROWS|LOW BRIGHTNESS SYMBOL|HIGH BRIGHTNESS SYMBOL
1F507|SPEAKER| WITH CANCELLATION STROKE|| WITH ONE SOUND WAVE| WITH THREE SOUND WAVES
1F50B||BATTERY|ELECTRIC PLUG|LEFT-POINTING MAGNIFYING GLASS
1F50E||RIGHT-POINTING MAGNIFYING GLASS|LOCK WITH INK PEN|CLOSED LOCK WITH KEY|KEY
1F512||LOCK|OPEN LOCK|BELL|BELL WITH CANCELLATION STROKE
1F516||BOOKMARK|LINK SYMBOL|RADIO BUTTON|BACK WITH LEFTWARDS ARROW ABOVE
1F51A||END WITH LEFTWARDS ARROW ABOVE|ON WITH EXCLAMATION MARK WITH LEFT RIGHT ARROW ABOVE
1F51C||SOON WITH RIGHTWARDS ARROW ABOVE|TOP WITH UPWARDS ARROW ABOVE|NO ONE UNDER EIGHTEEN SYMBOL|KEYCAP TEN
1F520|INPUT SYMBOL FOR |LATIN CAPITAL LETTERS|LATIN SMALL LETTERS|NUMBERS|SYMBOLS|LATIN LETTERS
1F525||FIRE|ELECTRIC TORCH|WRENCH
1F528||HAMMER|NUT AND BOLT|HOCHO|PISTOL
1F52C||MICROSCOPE|TELESCOPE|CRYSTAL BALL|SIX POINTED STAR WITH MIDDLE DOT
1F530||JAPANESE SYMBOL FOR BEGINNER|TRIDENT EMBLEM|BLACK SQUARE BUTTON|WHITE SQUARE BUTTON
1F534|LARGE |RED CIRCLE|BLUE CIRCLE|ORANGE DIAMOND|BLUE DIAMOND
1F538||SMALL ORANGE DIAMOND|SMALL BLUE DIAMOND|UP-POINTING RED TRIANGLE
1F53B||DOWN-POINTING RED TRIANGLE|UP-POINTING SMALL RED TRIANGLE|DOWN-POINTING SMALL RED TRIANGLE
1F53E||LOWER RIGHT SHADOWED WHITE CIRCLE|UPPER RIGHT SHADOWED WHITE CIRCLE|CIRCLED CROSS POMMEE
1F541|CROSS POMMEE| WITH HALF-CIRCLE BELOW|
1F543|NOTCHED |LEFT SEMICIRCLE WITH THREE DOTS|RIGHT SEMICIRCLE WITH THREE DOTS
1F545||SYMBOL FOR MARKS CHAPTER|WHITE LATIN CROSS|HEAVY LATIN CROSS
1F548||CELTIC CROSS|OM SYMBOL|DOVE OF PEACE|KAABA
1F54C||MOSQUE|SYNAGOGUE|MENORAH WITH NINE BRANCHES|BOWL OF HYGIEIA
1F550|CLOCK FACE |ONE OCLOCK|TWO OCLOCK|THREE OCLOCK
1F553|CLOCK FACE |FOUR OCLOCK|FIVE OCLOCK|SIX OCLOCK|SEVEN OCLOCK|EIGHT OCLOCK|NINE OCLOCK|TEN OCLOCK
1F55A|CLOCK FACE |ELEVEN OCLOCK|TWELVE OCLOCK|ONE-THIRTY|TWO-THIRTY|THREE-THIRTY|FOUR-THIRTY|FIVE-THIRTY
1F561|CLOCK FACE |SIX-THIRTY|SEVEN-THIRTY|EIGHT-THIRTY|NINE-THIRTY|TEN-THIRTY|ELEVEN-THIRTY|TWELVE-THIRTY
1F568|RIGHT SPEAKER|| WITH ONE SOUND WAVE| WITH THREE SOUND WAVES
1F56B|BULLHORN|| WITH SOUND WAVES
1F56D||RINGING BELL
1F56E||BOOK|CANDLE|MANTELPIECE CLOCK|BLACK SKULL AND CROSSBONES
1F572||NO PIRACY|HOLE|MAN IN BUSINESS SUIT LEVITATING|SLEUTH OR SPY
1F576||DARK SUNGLASSES|SPIDER|SPIDER WEB|JOYSTICK
1F57A||MAN DANCING|LEFT HAND TELEPHONE RECEIVER|TELEPHONE RECEIVER WITH PAGE|RIGHT HAND TELEPHONE RECEIVER
1F57E||WHITE TOUCHTONE TELEPHONE|BLACK TOUCHTONE TELEPHONE|TELEPHONE ON TOP OF MODEM
1F581||CLAMSHELL MOBILE PHONE|BACK OF ENVELOPE|STAMPED ENVELOPE|ENVELOPE WITH LIGHTNING
1F585||FLYING ENVELOPE|PEN OVER STAMPED ENVELOPE|LINKED PAPERCLIPS|BLACK PUSHPIN
1F589|LOWER LEFT |PENCIL|BALLPOINT PEN|FOUNTAIN PEN|PAINTBRUSH|CRAYON
1F58E||LEFT WRITING HAND|TURNED OK HAND SIGN
1F590|R|AISED HAND WITH FINGERS SPLAYED|EVERSED RAISED HAND WITH FINGERS SPLAYED
1F592|REVERSED |THUMBS UP SIGN|THUMBS DOWN SIGN|VICTORY HAND|HAND WITH MIDDLE FINGER EXTENDED
1F596||RAISED HAND WITH PART BETWEEN MIDDLE AND RING FINGERS|WHITE DOWN POINTING LEFT HAND INDEX
1F598|SIDEWAYS WHITE |LEFT POINTING INDEX|RIGHT POINTING INDEX
1F59A|SIDEWAYS BLACK |LEFT POINTING INDEX|RIGHT POINTING INDEX
1F59C|BLACK |LEFT POINTING BACKHAND INDEX|RIGHT POINTING BACKHAND INDEX
1F59E|SIDEWAYS WHITE |UP POINTING INDEX|DOWN POINTING INDEX
1F5A0|SIDEWAYS BLACK |UP POINTING INDEX|DOWN POINTING INDEX
1F5A2|BLACK |UP POINTING BACKHAND INDEX|DOWN POINTING BACKHAND INDEX|HEART
1F5A5||DESKTOP COMPUTER|KEYBOARD AND MOUSE|THREE NETWORKED COMPUTERS|PRINTER
1F5A9||POCKET CALCULATOR|BLACK HARD SHELL FLOPPY DISK|WHITE HARD SHELL FLOPPY DISK|SOFT SHELL FLOPPY DISK
1F5AD||TAPE CARTRIDGE|WIRED KEYBOARD|ONE BUTTON MOUSE|TWO BUTTON MOUSE
1F5B1||THREE BUTTON MOUSE|TRACKBALL|OLD PERSONAL COMPUTER|HARD DISK
1F5B5||SCREEN|PRINTER ICON|FAX ICON|OPTICAL DISC ICON
1F5B9|DOCUMENT WITH |TEXT|TEXT AND PICTURE|PICTURE
1F5BC|FRAME WITH |PICTURE|TILES|AN X
1F5BF||BLACK FOLDER|FOLDER
1F5C1||OPEN FOLDER|CARD INDEX DIVIDERS|CARD FILE BOX|FILE CABINET
1F5C5|EMPTY NOTE|| PAGE| PAD
1F5C8|NOTE|| PAGE| PAD
1F5CB|EMPTY |DOCUMENT|PAGE|PAGES
1F5CE||DOCUMENT|PAGE|PAGES|WASTEBASKET
1F5D2|SPIRAL |NOTE PAD|CALENDAR PAD
1F5D4||DESKTOP WINDOW|MINIMIZE|MAXIMIZE|OVERLAP
1F5D8|C|LOCKWISE RIGHT AND LEFT SEMICIRCLE ARROWS|ANCELLATION X
1F5DA||INCREASE FONT SIZE SYMBOL|DECREASE FONT SIZE SYMBOL
1F5DC||COMPRESSION|OLD KEY|ROLLED-UP NEWSPAPER|PAGE WITH CIRCLED TEXT
1F5E0||STOCK CHART|DAGGER KNIFE|LIPS|SPEAKING HEAD IN SILHOUETTE
1F5E4|THREE RAYS |ABOVE|BELOW|LEFT|RIGHT
1F5E8||LEFT SPEECH BUBBLE
1F5E9||RIGHT SPEECH BUBBLE|TWO SPEECH BUBBLES|THREE SPEECH BUBBLES|LEFT THOUGHT BUBBLE
1F5ED||RIGHT THOUGHT BUBBLE|LEFT ANGER BUBBLE|RIGHT ANGER BUBBLE|MOOD BUBBLE
1F5F1|LIGHTNING MOOD| BUBBLE|
1F5F3|BALLOT |BOX WITH BALLOT|SCRIPT X|BOX WITH SCRIPT X|BOLD SCRIPT X|BOX WITH BOLD SCRIPT X
1F5F8||LIGHT CHECK MARK|BALLOT BOX WITH BOLD CHECK|WORLD MAP|MOUNT FUJI
1F5FC||TOKYO TOWER|STATUE OF LIBERTY|SILHOUETTE OF JAPAN|MOYAI
1F600|GRINNING FACE|| WITH SMILING EYES
1F602||FACE WITH TEARS OF JOY
1F603|SMILING FACE WITH OPEN MOUTH|| AND SMILING EYES| AND COLD SWEAT| AND TIGHTLY-CLOSED EYES
1F607|SMILING FACE WITH H|ALO|ORNS
1F609||WINKING FACE|SMILING FACE WITH SMILING EYES|FACE SAVOURING DELICIOUS FOOD|RELIEVED FACE
1F60D|SMILING FACE WITH |HEART-SHAPED EYES|SUNGLASSES
1F60F||SMIRKING FACE|NEUTRAL FACE
1F611||EXPRESSIONLESS FACE|UNAMUSED FACE|FACE WITH COLD SWEAT|PENSIVE FACE
1F615||CONFUSED FACE|CONFOUNDED FACE|KISSING FACE|FACE THROWING A KISS
1F619|KISSING FACE WITH |SMILING EYES|CLOSED EYES
1F61B|FACE WITH STUCK-OUT TONGUE|| AND WINKING EYE| AND TIGHTLY-CLOSED EYES
1F61E||DISAPPOINTED FACE|WORRIED FACE|ANGRY FACE|POUTING FACE
1F622||CRYING FACE|PERSEVERING FACE|FACE WITH LOOK OF TRIUMPH|DISAPPOINTED BUT RELIEVED FACE
1F626||FROWNING FACE WITH OPEN MOUTH|ANGUISHED FACE|FEARFUL FACE|WEARY FACE
1F62A||SLEEPY FACE|TIRED FACE|GRIMACING FACE|LOUDLY CRYING FACE
1F62E||FACE WITH OPEN MOUTH|HUSHED FACE|FACE WITH OPEN MOUTH AND COLD SWEAT|FACE SCREAMING IN FEAR
1F632||ASTONISHED FACE|FLUSHED FACE|SLEEPING FACE|DIZZY FACE
1F636|FACE WITH|OUT MOUTH| MEDICAL MASK
1F638||GRINNING CAT FACE WITH SMILING EYES|CAT FACE WITH TEARS OF JOY
1F63A|SMILING CAT FACE WITH |OPEN MOUTH|HEART-SHAPED EYES
1F63C||CAT FACE WITH WRY SMILE|KISSING CAT FACE WITH CLOSED EYES|POUTING CAT FACE|CRYING CAT FACE
1F640||WEARY CAT FACE|SLIGHTLY FROWNING FACE|SLIGHTLY SMILING FACE|UPSIDE-DOWN FACE
1F644|FACE WITH |ROLLING EYES|NO GOOD GESTURE|OK GESTURE
1F647||PERSON BOWING DEEPLY
1F648||SEE-NO-EVIL MONKEY|HEAR-NO-EVIL MONKEY|SPEAK-NO-EVIL MONKEY|HAPPY PERSON RAISING ONE HAND
1F64C|PERSON |RAISING BOTH HANDS IN CELEBRATION|FROWNING|WITH POUTING FACE|WITH FOLDED HANDS
1F650||NORTH WEST POINTING LEAF|SOUTH WEST POINTING LEAF|NORTH EAST POINTING LEAF|SOUTH EAST POINTING LEAF
1F654|TURNED |NORTH WEST POINTING LEAF|SOUTH WEST POINTING LEAF|NORTH EAST POINTING LEAF
1F657||TURNED SOUTH EAST POINTING LEAF|NORTH WEST POINTING VINE LEAF|SOUTH WEST POINTING VINE LEAF
1F65A||NORTH EAST POINTING VINE LEAF|SOUTH EAST POINTING VINE LEAF|HEAVY NORTH WEST POINTING VINE LEAF
1F65D|HEAVY |SOUTH WEST POINTING VINE LEAF|NORTH EAST POINTING VINE LEAF|SOUTH EAST POINTING VINE LEAF
1F660||NORTH WEST POINTING BUD|SOUTH WEST POINTING BUD|NORTH EAST POINTING BUD|SOUTH EAST POINTING BUD
1F664|HEAVY |NORTH WEST POINTING BUD|SOUTH WEST POINTING BUD|NORTH EAST POINTING BUD|SOUTH EAST POINTING BUD
1F668|HOLLOW QUILT SQUARE ORNAMENT|| IN BLACK SQUARE
1F66A|SOLID QUILT SQUARE ORNAMENT|| IN BLACK SQUARE
1F66C||LEFTWARDS ROCKET|UPWARDS ROCKET|RIGHTWARDS ROCKET|DOWNWARDS ROCKET
1F670||SCRIPT LIGATURE ET ORNAMENT|HEAVY SCRIPT LIGATURE ET ORNAMENT|LIGATURE OPEN ET ORNAMENT
1F673|HEAVY |LIGATURE OPEN ET ORNAMENT|AMPERSAND ORNAMENT
1F675|S|WASH AMPERSAND ORNAMENT|ANS-SERIF HEAVY DOUBLE TURNED COMMA QUOTATION MARK ORNAMENT
1F677|SANS-SERIF HEAVY |DOUBLE COMMA QUOTATION MARK ORNAMENT|LOW DOUBLE COMMA QUOTATION MARK ORNAMENT
1F679||HEAVY INTERROBANG ORNAMENT|SANS-SERIF INTERROBANG ORNAMENT|HEAVY SANS-SERIF INTERROBANG ORNAMENT
1F67C|VERY HEAVY |SOLIDUS|REVERSE SOLIDUS
1F67E||CHECKER BOARD|REVERSE CHECKER BOARD
1F680||ROCKET|HELICOPTER|STEAM LOCOMOTIVE|RAILWAY CAR
1F684|HIGH-SPEED TRAIN|| WITH BULLET NOSE
1F686||TRAIN|METRO|LIGHT RAIL|STATION
1F68A|TRAM|| CAR
1F68C||BUS|ONCOMING BUS|TROLLEYBUS|BUS STOP
1F690||MINIBUS|AMBULANCE|FIRE ENGINE|POLICE CAR
1F694||ONCOMING POLICE CAR|TAXI|ONCOMING TAXI|AUTOMOBILE
1F698||ONCOMING AUTOMOBILE|RECREATIONAL VEHICLE|DELIVERY TRUCK|ARTICULATED LORRY
1F69C||TRACTOR|MONORAIL|MOUNTAIN RAILWAY|SUSPENSION RAILWAY
1F6A0||MOUNTAIN CABLEWAY|AERIAL TRAMWAY|SHIP|ROWBOAT
1F6A4||SPEEDBOAT|HORIZONTAL TRAFFIC LIGHT|VERTICAL TRAFFIC LIGHT|CONSTRUCTION SIGN
1F6A8||POLICE CARS REVOLVING LIGHT|TRIANGULAR FLAG ON POST|DOOR|NO ENTRY SIGN
1F6AC||SMOKING SYMBOL|NO SMOKING SYMBOL|PUT LITTER IN ITS PLACE SYMBOL|DO NOT LITTER SYMBOL
1F6B0||POTABLE WATER SYMBOL|NON-POTABLE WATER SYMBOL|BICYCLE|NO BICYCLES
1F6B4||BICYCLIST|MOUNTAIN BICYCLIST|PEDESTRIAN|NO PEDESTRIANS
1F6B8||CHILDREN CROSSING|MENS SYMBOL|WOMENS SYMBOL|RESTROOM
1F6BC||BABY SYMBOL|TOILET|WATER CLOSET|SHOWER
1F6C0||BATH|BATHTUB|PASSPORT CONTROL|CUSTOMS
1F6C4||BAGGAGE CLAIM|LEFT LUGGAGE|TRIANGLE WITH ROUNDED CORNERS|PROHIBITED SIGN
1F6C8||CIRCLED INFORMATION SOURCE|BOYS SYMBOL|GIRLS SYMBOL|COUCH AND LAMP
1F6CC||SLEEPING ACCOMMODATION|SHOPPING BAGS|BELLHOP BELL|BED
1F6D0||PLACE OF WORSHIP|OCTAGONAL SIGN|SHOPPING TROLLEY|STUPA
1F6D4||PAGODA|HINDU TEMPLE|HUT|ELEVATOR
1F6DD||PLAYGROUND SLIDE
1F6DE||WHEEL|RING BUOY|HAMMER AND WRENCH|SHIELD
1F6E2||OIL DRUM|MOTORWAY|RAILWAY TRACK|MOTOR BOAT
1F6E6|UP-POINTING |MILITARY AIRPLANE|AIRPLANE|SMALL AIRPLANE
1F6E9||SMALL AIRPLANE|NORTHEAST-POINTING AIRPLANE
1F6EB|AIRPLANE |DEPARTURE|ARRIVING
1F6F0||SATELLITE
1F6F1||ONCOMING FIRE ENGINE|DIESEL LOCOMOTIVE|PASSENGER SHIP|SCOOTER
1F6F5||MOTOR SCOOTER|CANOE|SLED|FLYING SAUCER
1F6F9||SKATEBOARD|AUTO RICKSHAW|PICKUP TRUCK|ROLLER SKATE
1F700|ALCHEMICAL SYMBOL FOR |QUINTESSENCE|AIR|FIRE|EARTH|WATER|AQUAFORTIS|AQUA REGIA|AQUA REGIA-2|AQUA VITAE
1F709|ALCHEMICAL SYMBOL FOR |AQUA VITAE-2|VINEGAR|VINEGAR-2|VINEGAR-3|SULFUR|PHILOSOPHERS SULFUR|BLACK SULFUR
1F710|ALCHEMICAL SYMBOL FOR MERCURY SUBLIMATE||-2|-3
1F713|ALCHEMICAL SYMBOL FOR |CINNABAR|SALT|NITRE|VITRIOL|VITRIOL-2|ROCK SALT|ROCK SALT-2|GOLD|SILVER
1F71C|ALCHEMICAL SYMBOL FOR |IRON ORE|IRON ORE-2|CROCUS OF IRON|REGULUS OF IRON|COPPER ORE|IRON-COPPER ORE
1F722|ALCHEMICAL SYMBOL FOR |SUBLIMATE OF COPPER|CROCUS OF COPPER|CROCUS OF COPPER-2|COPPER ANTIMONIATE
1F726|ALCHEMICAL SYMBOL FOR S|ALT OF COPPER ANTIMONIATE|UBLIMATE OF SALT OF COPPER
1F728|ALCHEMICAL SYMBOL FOR |VERDIGRIS|TIN ORE|LEAD ORE|ANTIMONY ORE|SUBLIMATE OF ANTIMONY
1F72D|ALCHEMICAL SYMBOL FOR |SALT OF ANTIMONY|SUBLIMATE OF SALT OF ANTIMONY|VINEGAR OF ANTIMONY
1F730|ALCHEMICAL SYMBOL FOR REGULUS| OF ANTIMONY| OF ANTIMONY-2||-2|-3|-4
1F736|ALCHEMICAL SYMBOL FOR |ALKALI|ALKALI-2|MARCASITE|SAL-AMMONIAC|ARSENIC|REALGAR|REALGAR-2
1F73D|ALCHEMICAL SYMBOL FOR |AURIPIGMENT|BISMUTH ORE|TARTAR|TARTAR-2|QUICK LIME|BORAX|BORAX-2|BORAX-3
1F745|ALCHEMICAL SYMBOL FOR |ALUM|OIL|SPIRIT|TINCTURE|GUM|WAX|POWDER|CALX|TUTTY|CAPUT MORTUUM|SCEPTER OF JOVE
1F750|ALCHEMICAL SYMBOL FOR |CADUCEUS|TRIDENT|STARRED TRIDENT|LODESTONE|SOAP|URINE|HORSE DUNG|ASHES|POT ASHES
1F759|ALCHEMICAL SYMBOL FOR |BRICK|POWDERED BRICK|AMALGAM|STRATUM SUPER STRATUM|STRATUM SUPER STRATUM-2
1F75E|ALCHEMICAL SYMBOL FOR |SUBLIMATION|PRECIPITATE|DISTILL|DISSOLVE|DISSOLVE-2|PURIFY|PUTREFACTION
1F765|ALCHEMICAL SYMBOL FOR CRUCIBLE||-2|-3|-4|-5
1F76A|ALCHEMICAL SYMBOL FOR |ALEMBIC|BATH OF MARY|BATH OF VAPOURS|RETORT|HOUR|NIGHT|DAY-NIGHT|MONTH
1F772|ALCHEMICAL SYMBOL FOR HALF |DRAM|OUNCE
1F780||BLACK LEFT-POINTING ISOSCELES RIGHT TRIANGLE
1F781|BLACK |UP-POINTING ISOSCELES RIGHT TRIANGLE|RIGHT-POINTING ISOSCELES RIGHT TRIANGLE
1F783|BLACK |DOWN-POINTING ISOSCELES RIGHT TRIANGLE|SLIGHTLY SMALL CIRCLE
1F785||MEDIUM BOLD WHITE CIRCLE|BOLD WHITE CIRCLE|HEAVY WHITE CIRCLE|VERY HEAVY WHITE CIRCLE
1F789||EXTREMELY HEAVY WHITE CIRCLE|WHITE CIRCLE CONTAINING BLACK SMALL CIRCLE|ROUND TARGET
1F78C||BLACK TINY SQUARE|BLACK SLIGHTLY SMALL SQUARE|LIGHT WHITE SQUARE|MEDIUM WHITE SQUARE
1F790||BOLD WHITE SQUARE|HEAVY WHITE SQUARE|VERY HEAVY WHITE SQUARE|EXTREMELY HEAVY WHITE SQUARE
1F794|WHITE SQUARE CONTAINING BLACK |VERY SMALL SQUARE|MEDIUM SQUARE
1F796||SQUARE TARGET
1F797|BLACK |TINY DIAMOND|VERY SMALL DIAMOND|MEDIUM SMALL DIAMOND
1F79A|WHITE DIAMOND CONTAINING BLACK |VERY SMALL DIAMOND|MEDIUM DIAMOND
1F79C||DIAMOND TARGET
1F79D|BLACK |TINY LOZENGE|VERY SMALL LOZENGE|MEDIUM SMALL LOZENGE
1F7A0||WHITE LOZENGE CONTAINING BLACK SMALL LOZENGE|THIN GREEK CROSS|LIGHT GREEK CROSS|MEDIUM GREEK CROSS
1F7A4||BOLD GREEK CROSS|VERY BOLD GREEK CROSS|VERY HEAVY GREEK CROSS|EXTREMELY HEAVY GREEK CROSS
1F7A8||THIN SALTIRE|LIGHT SALTIRE|MEDIUM SALTIRE|BOLD SALTIRE
1F7AC||HEAVY SALTIRE|VERY HEAVY SALTIRE|EXTREMELY HEAVY SALTIRE|LIGHT FIVE SPOKED ASTERISK
1F7B0||MEDIUM FIVE SPOKED ASTERISK|BOLD FIVE SPOKED ASTERISK|HEAVY FIVE SPOKED ASTERISK
1F7B3||VERY HEAVY FIVE SPOKED ASTERISK|EXTREMELY HEAVY FIVE SPOKED ASTERISK|LIGHT SIX SPOKED ASTERISK
1F7B6||MEDIUM SIX SPOKED ASTERISK|BOLD SIX SPOKED ASTERISK|HEAVY SIX SPOKED ASTERISK
1F7B9||VERY HEAVY SIX SPOKED ASTERISK|EXTREMELY HEAVY SIX SPOKED ASTERISK|LIGHT EIGHT SPOKED ASTERISK
1F7BC||MEDIUM EIGHT SPOKED ASTERISK|BOLD EIGHT SPOKED ASTERISK|HEAVY EIGHT SPOKED ASTERISK
1F7BF||VERY HEAVY EIGHT SPOKED ASTERISK|LIGHT THREE POINTED BLACK STAR|MEDIUM THREE POINTED BLACK STAR
1F7C2||THREE POINTED BLACK STAR|MEDIUM THREE POINTED PINWHEEL STAR|LIGHT FOUR POINTED BLACK STAR
1F7C5||MEDIUM FOUR POINTED BLACK STAR|FOUR POINTED BLACK STAR|MEDIUM FOUR POINTED PINWHEEL STAR
1F7C8||REVERSE LIGHT FOUR POINTED PINWHEEL STAR|LIGHT FIVE POINTED BLACK STAR
1F7CA||HEAVY FIVE POINTED BLACK STAR|MEDIUM SIX POINTED BLACK STAR|HEAVY SIX POINTED BLACK STAR
1F7CD||SIX POINTED PINWHEEL STAR|MEDIUM EIGHT POINTED BLACK STAR|HEAVY EIGHT POINTED BLACK STAR
1F7D0||VERY HEAVY EIGHT POINTED BLACK STAR|HEAVY EIGHT POINTED PINWHEEL STAR|LIGHT TWELVE POINTED BLACK STAR
1F7D3|HEAVY TWELVE POINTED |BLACK STAR|PINWHEEL STAR
1F7D5||CIRCLED TRIANGLE|NEGATIVE CIRCLED TRIANGLE|CIRCLED SQUARE|NEGATIVE CIRCLED SQUARE
1F7E0|LARGE |ORANGE CIRCLE|YELLOW CIRCLE|GREEN CIRCLE|PURPLE CIRCLE|BROWN CIRCLE
1F7E5|LARGE |RED SQUARE|BLUE SQUARE|ORANGE SQUARE|YELLOW SQUARE|GREEN SQUARE|PURPLE SQUARE|BROWN SQUARE
1F7F0||HEAVY EQUALS SIGN
1F800||LEFTWARDS ARROW WITH SMALL TRIANGLE ARROWHEAD|UPWARDS ARROW WITH SMALL TRIANGLE ARROWHEAD
1F802||RIGHTWARDS ARROW WITH SMALL TRIANGLE ARROWHEAD|DOWNWARDS ARROW WITH SMALL TRIANGLE ARROWHEAD
1F804||LEFTWARDS ARROW WITH MEDIUM TRIANGLE ARROWHEAD|UPWARDS ARROW WITH MEDIUM TRIANGLE ARROWHEAD
1F806||RIGHTWARDS ARROW WITH MEDIUM TRIANGLE ARROWHEAD|DOWNWARDS ARROW WITH MEDIUM TRIANGLE ARROWHEAD
1F808||LEFTWARDS ARROW WITH LARGE TRIANGLE ARROWHEAD|UPWARDS ARROW WITH LARGE TRIANGLE ARROWHEAD
1F80A||RIGHTWARDS ARROW WITH LARGE TRIANGLE ARROWHEAD|DOWNWARDS ARROW WITH LARGE TRIANGLE ARROWHEAD
1F810||LEFTWARDS ARROW WITH SMALL EQUILATERAL ARROWHEAD
1F811||UPWARDS ARROW WITH SMALL EQUILATERAL ARROWHEAD|RIGHTWARDS ARROW WITH SMALL EQUILATERAL ARROWHEAD
1F813||DOWNWARDS ARROW WITH SMALL EQUILATERAL ARROWHEAD|LEFTWARDS ARROW WITH EQUILATERAL ARROWHEAD
1F815||UPWARDS ARROW WITH EQUILATERAL ARROWHEAD|RIGHTWARDS ARROW WITH EQUILATERAL ARROWHEAD
1F817||DOWNWARDS ARROW WITH EQUILATERAL ARROWHEAD|HEAVY LEFTWARDS ARROW WITH EQUILATERAL ARROWHEAD
1F819|HEAVY |UPWARDS ARROW WITH EQUILATERAL ARROWHEAD|RIGHTWARDS ARROW WITH EQUILATERAL ARROWHEAD
1F81B|HEAVY |DOWNWARDS ARROW WITH EQUILATERAL ARROWHEAD|LEFTWARDS ARROW WITH LARGE EQUILATERAL ARROWHEAD
1F81D|HEAVY |UPWARDS ARROW WITH LARGE EQUILATERAL ARROWHEAD|RIGHTWARDS ARROW WITH LARGE EQUILATERAL ARROWHEAD
1F81F||HEAVY DOWNWARDS ARROW WITH LARGE EQUILATERAL ARROWHEAD
1F820||LEFTWARDS TRIANGLE-HEADED ARROW WITH NARROW SHAFT
1F821||UPWARDS TRIANGLE-HEADED ARROW WITH NARROW SHAFT|RIGHTWARDS TRIANGLE-HEADED ARROW WITH NARROW SHAFT
1F823||DOWNWARDS TRIANGLE-HEADED ARROW WITH NARROW SHAFT|LEFTWARDS TRIANGLE-HEADED ARROW WITH MEDIUM SHAFT
1F825||UPWARDS TRIANGLE-HEADED ARROW WITH MEDIUM SHAFT|RIGHTWARDS TRIANGLE-HEADED ARROW WITH MEDIUM SHAFT
1F827||DOWNWARDS TRIANGLE-HEADED ARROW WITH MEDIUM SHAFT|LEFTWARDS TRIANGLE-HEADED ARROW WITH BOLD SHAFT
1F829||UPWARDS TRIANGLE-HEADED ARROW WITH BOLD SHAFT|RIGHTWARDS TRIANGLE-HEADED ARROW WITH BOLD SHAFT
1F82B||DOWNWARDS TRIANGLE-HEADED ARROW WITH BOLD SHAFT|LEFTWARDS TRIANGLE-HEADED ARROW WITH HEAVY SHAFT
1F82D||UPWARDS TRIANGLE-HEADED ARROW WITH HEAVY SHAFT|RIGHTWARDS TRIANGLE-HEADED ARROW WITH HEAVY SHAFT
1F82F||DOWNWARDS TRIANGLE-HEADED ARROW WITH HEAVY SHAFT|LEFTWARDS TRIANGLE-HEADED ARROW WITH VERY HEAVY SHAFT
1F831||UPWARDS TRIANGLE-HEADED ARROW WITH VERY HEAVY SHAFT
1F832||RIGHTWARDS TRIANGLE-HEADED ARROW WITH VERY HEAVY SHAFT
1F833||DOWNWARDS TRIANGLE-HEADED ARROW WITH VERY HEAVY SHAFT
1F834||LEFTWARDS FINGER-POST ARROW|UPWARDS FINGER-POST ARROW
1F836||RIGHTWARDS FINGER-POST ARROW|DOWNWARDS FINGER-POST ARROW|LEFTWARDS SQUARED ARROW|UPWARDS SQUARED ARROW
1F83A||RIGHTWARDS SQUARED ARROW|DOWNWARDS SQUARED ARROW|LEFTWARDS COMPRESSED ARROW|UPWARDS COMPRESSED ARROW
1F83E||RIGHTWARDS COMPRESSED ARROW|DOWNWARDS COMPRESSED ARROW|LEFTWARDS HEAVY COMPRESSED ARROW
1F841||UPWARDS HEAVY COMPRESSED ARROW|RIGHTWARDS HEAVY COMPRESSED ARROW|DOWNWARDS HEAVY COMPRESSED ARROW
1F844||LEFTWARDS HEAVY ARROW|UPWARDS HEAVY ARROW|RIGHTWARDS HEAVY ARROW|DOWNWARDS HEAVY ARROW
1F850||LEFTWARDS SANS-SERIF ARROW|UPWARDS SANS-SERIF ARROW|RIGHTWARDS SANS-SERIF ARROW
1F853||DOWNWARDS SANS-SERIF ARROW|NORTH WEST SANS-SERIF ARROW|NORTH EAST SANS-SERIF ARROW
1F856|SOUTH |EAST SANS-SERIF ARROW|WEST SANS-SERIF ARROW
1F858||LEFT RIGHT SANS-SERIF ARROW|UP DOWN SANS-SERIF ARROW
1F860|WIDE-HEADED |LEFTWARDS LIGHT BARB ARROW|UPWARDS LIGHT BARB ARROW|RIGHTWARDS LIGHT BARB ARROW
1F863|WIDE-HEADED |DOWNWARDS LIGHT BARB ARROW|NORTH WEST LIGHT BARB ARROW|NORTH EAST LIGHT BARB ARROW
1F866|WIDE-HEADED SOUTH |EAST LIGHT BARB ARROW|WEST LIGHT BARB ARROW
1F868|WIDE-HEADED |LEFTWARDS BARB ARROW|UPWARDS BARB ARROW|RIGHTWARDS BARB ARROW|DOWNWARDS BARB ARROW
1F86C|WIDE-HEADED |NORTH WEST BARB ARROW|NORTH EAST BARB ARROW|SOUTH EAST BARB ARROW|SOUTH WEST BARB ARROW
1F870|WIDE-HEADED |LEFTWARDS MEDIUM BARB ARROW|UPWARDS MEDIUM BARB ARROW|RIGHTWARDS MEDIUM BARB ARROW
1F873|WIDE-HEADED |DOWNWARDS MEDIUM BARB ARROW|NORTH WEST MEDIUM BARB ARROW|NORTH EAST MEDIUM BARB ARROW
1F876|WIDE-HEADED |SOUTH EAST MEDIUM BARB ARROW|SOUTH WEST MEDIUM BARB ARROW|LEFTWARDS HEAVY BARB ARROW
1F879|WIDE-HEADED |UPWARDS HEAVY BARB ARROW|RIGHTWARDS HEAVY BARB ARROW|DOWNWARDS HEAVY BARB ARROW
1F87C|WIDE-HEADED |NORTH WEST HEAVY BARB ARROW|NORTH EAST HEAVY BARB ARROW|SOUTH EAST HEAVY BARB ARROW
1F87F|WIDE-HEADED |SOUTH WEST HEAVY BARB ARROW|LEFTWARDS VERY HEAVY BARB ARROW|UPWARDS VERY HEAVY BARB ARROW
1F882|WIDE-HEADED |RIGHTWARDS VERY HEAVY BARB ARROW|DOWNWARDS VERY HEAVY BARB ARROW
1F884|WIDE-HEADED NORTH |WEST VERY HEAVY BARB ARROW|EAST VERY HEAVY BARB ARROW
1F886|WIDE-HEADED SOUTH |EAST VERY HEAVY BARB ARROW|WEST VERY HEAVY BARB ARROW
1F890||LEFTWARDS TRIANGLE ARROWHEAD|UPWARDS TRIANGLE ARROWHEAD|RIGHTWARDS TRIANGLE ARROWHEAD
1F893||DOWNWARDS TRIANGLE ARROWHEAD|LEFTWARDS WHITE ARROW WITHIN TRIANGLE ARROWHEAD
1F895||UPWARDS WHITE ARROW WITHIN TRIANGLE ARROWHEAD|RIGHTWARDS WHITE ARROW WITHIN TRIANGLE ARROWHEAD
1F897||DOWNWARDS WHITE ARROW WITHIN TRIANGLE ARROWHEAD|LEFTWARDS ARROW WITH NOTCHED TAIL
1F899||UPWARDS ARROW WITH NOTCHED TAIL|RIGHTWARDS ARROW WITH NOTCHED TAIL|DOWNWARDS ARROW WITH NOTCHED TAIL
1F89C|HEAVY ARROW SHAFT WIDTH |ONE|TWO THIRDS|ONE HALF|ONE THIRD
1F8A0||LEFTWARDS BOTTOM-SHADED WHITE ARROW|RIGHTWARDS BOTTOM SHADED WHITE ARROW
1F8A2||LEFTWARDS TOP SHADED WHITE ARROW|RIGHTWARDS TOP SHADED WHITE ARROW
1F8A4||LEFTWARDS LEFT-SHADED WHITE ARROW|RIGHTWARDS RIGHT-SHADED WHITE ARROW
1F8A6||LEFTWARDS RIGHT-SHADED WHITE ARROW|RIGHTWARDS LEFT-SHADED WHITE ARROW
1F8A8||LEFTWARDS BACK-TILTED SHADOWED WHITE ARROW|RIGHTWARDS BACK-TILTED SHADOWED WHITE ARROW
1F8AA||LEFTWARDS FRONT-TILTED SHADOWED WHITE ARROW|RIGHTWARDS FRONT-TILTED SHADOWED WHITE ARROW
1F8AC|WHITE ARROW SHAFT WIDTH |ONE|TWO THIRDS
1F8B0|ARROW POINTING |UPWARDS THEN NORTH WEST|RIGHTWARDS THEN CURVING SOUTH WEST
1F900|CIRCLED CROSS FORMEE| WITH FOUR DOTS| WITH TWO DOTS|
1F903|LEFT HALF CIRCLE| WITH FOUR DOTS| WITH THREE DOTS| WITH TWO DOTS| WITH DOT|
1F908|DOWNWARD FACING |HOOK|NOTCHED HOOK|HOOK WITH DOT|NOTCHED HOOK WITH DOT
1F90C||PINCHED FINGERS
1F90D||WHITE HEART|BROWN HEART|PINCHING HAND|ZIPPER-MOUTH FACE
1F911||MONEY-MOUTH FACE|FACE WITH THERMOMETER|NERD FACE|THINKING FACE
1F915||FACE WITH HEAD-BANDAGE|ROBOT FACE|HUGGING FACE|SIGN OF THE HORNS
1F919||CALL ME HAND|RAISED BACK OF HAND|LEFT-FACING FIST|RIGHT-FACING FIST
1F91D||HANDSHAKE|HAND WITH INDEX AND MIDDLE FINGERS CROSSED|I LOVE YOU HAND SIGN|FACE WITH COWBOY HAT
1F921||CLOWN FACE|NAUSEATED FACE|ROLLING ON THE FLOOR LAUGHING|DROOLING FACE
1F925||LYING FACE|FACE PALM|SNEEZING FACE|FACE WITH ONE EYEBROW RAISED
1F929|GRINNING FACE WITH |STAR EYES|ONE LARGE AND ONE SMALL EYE
1F92B||FACE WITH FINGER COVERING CLOSED LIPS|SERIOUS FACE WITH SYMBOLS COVERING MOUTH
1F92D||SMILING FACE WITH SMILING EYES AND HAND COVERING MOUTH|FACE WITH OPEN MOUTH VOMITING
1F92F||SHOCKED FACE WITH EXPLODING HEAD|PREGNANT WOMAN|BREAST-FEEDING|PALMS UP TOGETHER
1F933||SELFIE|PRINCE|MAN IN TUXEDO|MOTHER CHRISTMAS
1F937||SHRUG|PERSON DOING CARTWHEEL|JUGGLING|FENCER
1F93B||MODERN PENTATHLON|WRESTLERS|WATER POLO|HANDBALL
1F93F||DIVING MASK|WILTED FLOWER|DRUM WITH DRUMSTICKS|CLINKING GLASSES
1F943||TUMBLER GLASS|SPOON|GOAL NET|RIFLE
1F947||FIRST PLACE MEDAL|SECOND PLACE MEDAL|THIRD PLACE MEDAL|BOXING GLOVE
1F94B||MARTIAL ARTS UNIFORM|CURLING STONE|LACROSSE STICK AND BALL|SOFTBALL
1F94F||FLYING DISC|CROISSANT|AVOCADO|CUCUMBER
1F953||BACON|POTATO|CARROT|BAGUETTE BREAD
1F957||GREEN SALAD|SHALLOW PAN OF FOOD|STUFFED FLATBREAD|EGG
1F95B||GLASS OF MILK|PEANUTS|KIWIFRUIT|PANCAKES
1F95F||DUMPLING|FORTUNE COOKIE|TAKEOUT BOX|CHOPSTICKS
1F963||BOWL WITH SPOON|CUP WITH STRAW|COCONUT|BROCCOLI
1F967||PIE|PRETZEL|CUT OF MEAT|SANDWICH
1F96B||CANNED FOOD|LEAFY GREEN|MANGO|MOON CAKE
1F96F||BAGEL|SMILING FACE WITH SMILING EYES AND THREE HEARTS|YAWNING FACE|SMILING FACE WITH TEAR
1F973|FACE WITH |PARTY HORN AND PARTY HAT|UNEVEN EYES AND WAVY MOUTH
1F975||OVERHEATED FACE|FREEZING FACE|NINJA
1F978||DISGUISED FACE|FACE HOLDING BACK TEARS|FACE WITH PLEADING EYES|SARI
1F97C||LAB COAT|GOGGLES|HIKING BOOT|FLAT SHOE
1F980||CRAB|LION FACE|SCORPION|TURKEY
1F984||UNICORN FACE|EAGLE|DUCK|BAT
1F988||SHARK|OWL|FOX FACE|BUTTERFLY
1F98C||DEER|GORILLA|LIZARD|RHINOCEROS
1F990||SHRIMP|SQUID|GIRAFFE FACE|ZEBRA FACE
1F994||HEDGEHOG|SAUROPOD|T-REX|CRICKET
1F998||KANGAROO|LLAMA|PEACOCK|HIPPOPOTAMUS
1F99C||PARROT|RACCOON|LOBSTER|MOSQUITO
1F9A0||MICROBE|BADGER|SWAN|MAMMOTH
1F9A4||DODO|SLOTH|OTTER|ORANGUTAN
1F9A8||SKUNK|FLAMINGO|OYSTER|BEAVER
1F9AC||BISON|SEAL|GUIDE DOG|PROBING CANE
1F9B0|EMOJI COMPONENT |RED HAIR|CURLY HAIR|BALD|WHITE HAIR
1F9B4||BONE|LEG|FOOT|TOOTH
1F9B8|SUPER|HERO|VILLAIN
1F9BA||SAFETY VEST|EAR WITH HEARING AID|MOTORIZED WHEELCHAIR|MANUAL WHEELCHAIR
1F9BE|MECHANICAL |ARM|LEG
1F9C0|C|HEESE WEDGE|UPCAKE
1F9C2||SALT SHAKER|BEVERAGE BOX|GARLIC
1F9C5||ONION|FALAFEL|WAFFLE|BUTTER
1F9C9||MATE DRINK|ICE CUBE|BUBBLE TEA|TROLL
1F9CD||STANDING PERSON|KNEELING PERSON|DEAF PERSON|FACE WITH MONOCLE
1F9D1||ADULT|CHILD|OLDER ADULT|BEARDED PERSON
1F9D5|PERSON |WITH HEADSCARF|IN STEAMY ROOM|CLIMBING|IN LOTUS POSITION
1F9D9||MAGE|FAIRY|VAMPIRE
1F9DC||MERPERSON|ELF|GENIE|ZOMBIE
1F9E0||BRAIN|ORANGE HEART|BILLED CAP|SCARF
1F9E4||GLOVES|COAT|SOCKS|RED GIFT ENVELOPE
1F9E8||FIRECRACKER|JIGSAW PUZZLE PIECE|TEST TUBE|PETRI DISH
1F9EC||DNA DOUBLE HELIX|COMPASS|ABACUS|FIRE EXTINGUISHER
1F9F0||TOOLBOX|BRICK|MAGNET|LUGGAGE
1F9F4||LOTION BOTTLE|SPOOL OF THREAD|BALL OF YARN|SAFETY PIN
1F9F8||TEDDY BEAR|BROOM|BASKET|ROLL OF PAPER
1F9FC||BAR OF SOAP|SPONGE|RECEIPT|NAZAR AMULET
1FA00|NEUTRAL CHESS |KING|QUEEN|ROOK|BISHOP|KNIGHT|PAWN
1FA06||WHITE CHESS KNIGHT ROTATED FORTY-FIVE DEGREES
1FA07||BLACK CHESS KNIGHT ROTATED FORTY-FIVE DEGREES|NEUTRAL CHESS KNIGHT ROTATED FORTY-FIVE DEGREES
1FA09|WHITE CHESS |KING ROTATED NINETY DEGREES|QUEEN ROTATED NINETY DEGREES|ROOK ROTATED NINETY DEGREES
1FA0C|WHITE CHESS |BISHOP ROTATED NINETY DEGREES|KNIGHT ROTATED NINETY DEGREES|PAWN ROTATED NINETY DEGREES
1FA0F|BLACK CHESS |KING ROTATED NINETY DEGREES|QUEEN ROTATED NINETY DEGREES|ROOK ROTATED NINETY DEGREES
1FA12|BLACK CHESS |BISHOP ROTATED NINETY DEGREES|KNIGHT ROTATED NINETY DEGREES|PAWN ROTATED NINETY DEGREES
1FA15|NEUTRAL CHESS |KING ROTATED NINETY DEGREES|QUEEN ROTATED NINETY DEGREES|ROOK ROTATED NINETY DEGREES
1FA18|NEUTRAL CHESS |BISHOP ROTATED NINETY DEGREES|KNIGHT ROTATED NINETY DEGREES|PAWN ROTATED NINETY DEGREES
1FA1B||WHITE CHESS KNIGHT ROTATED ONE HUNDRED THIRTY-FIVE DEGREES
1FA1C||BLACK CHESS KNIGHT ROTATED ONE HUNDRED THIRTY-FIVE DEGREES
1FA1D||NEUTRAL CHESS KNIGHT ROTATED ONE HUNDRED THIRTY-FIVE DEGREES
1FA1E|WHITE CHESS TURNED |KING|QUEEN|ROOK|BISHOP|KNIGHT|PAWN
1FA24|BLACK CHESS TURNED |KING|QUEEN|ROOK|BISHOP|KNIGHT|PAWN
1FA2A|NEUTRAL CHESS TURNED |KING|QUEEN|ROOK|BISHOP|KNIGHT|PAWN
1FA30||WHITE CHESS KNIGHT ROTATED TWO HUNDRED TWENTY-FIVE DEGREES
1FA31||BLACK CHESS KNIGHT ROTATED TWO HUNDRED TWENTY-FIVE DEGREES
1FA32||NEUTRAL CHESS KNIGHT ROTATED TWO HUNDRED TWENTY-FIVE DEGREES
1FA33|WHITE CHESS |KING ROTATED TWO HUNDRED SEVENTY DEGREES|QUEEN ROTATED TWO HUNDRED SEVENTY DEGREES
1FA35|WHITE CHESS |ROOK ROTATED TWO HUNDRED SEVENTY DEGREES|BISHOP ROTATED TWO HUNDRED SEVENTY DEGREES
1FA37|WHITE CHESS |KNIGHT ROTATED TWO HUNDRED SEVENTY DEGREES|PAWN ROTATED TWO HUNDRED SEVENTY DEGREES
1FA39|BLACK CHESS |KING ROTATED TWO HUNDRED SEVENTY DEGREES|QUEEN ROTATED TWO HUNDRED SEVENTY DEGREES
1FA3B|BLACK CHESS |ROOK ROTATED TWO HUNDRED SEVENTY DEGREES|BISHOP ROTATED TWO HUNDRED SEVENTY DEGREES
1FA3D|BLACK CHESS |KNIGHT ROTATED TWO HUNDRED SEVENTY DEGREES|PAWN ROTATED TWO HUNDRED SEVENTY DEGREES
1FA3F|NEUTRAL CHESS |KING ROTATED TWO HUNDRED SEVENTY DEGREES|QUEEN ROTATED TWO HUNDRED SEVENTY DEGREES
1FA41|NEUTRAL CHESS |ROOK ROTATED TWO HUNDRED SEVENTY DEGREES|BISHOP ROTATED TWO HUNDRED SEVENTY DEGREES
1FA43|NEUTRAL CHESS |KNIGHT ROTATED TWO HUNDRED SEVENTY DEGREES|PAWN ROTATED TWO HUNDRED SEVENTY DEGREES
1FA45||WHITE CHESS KNIGHT ROTATED THREE HUNDRED FIFTEEN DEGREES
1FA46||BLACK CHESS KNIGHT ROTATED THREE HUNDRED FIFTEEN DEGREES
1FA47||NEUTRAL CHESS KNIGHT ROTATED THREE HUNDRED FIFTEEN DEGREES|WHITE CHESS EQUIHOPPER
1FA49||BLACK CHESS EQUIHOPPER|NEUTRAL CHESS EQUIHOPPER|WHITE CHESS EQUIHOPPER ROTATED NINETY DEGREES
1FA4C||BLACK CHESS EQUIHOPPER ROTATED NINETY DEGREES|NEUTRAL CHESS EQUIHOPPER ROTATED NINETY DEGREES
1FA4E|WHITE CHESS KNIGHT-|QUEEN|ROOK|BISHOP
1FA51|BLACK CHESS KNIGHT-|QUEEN|ROOK|BISHOP
1FA60|XIANGQI RED |GENERAL|MANDARIN|ELEPHANT|HORSE|CHARIOT|CANNON|SOLDIER
1FA67|XIANGQI BLACK |GENERAL|MANDARIN|ELEPHANT|HORSE|CHARIOT|CANNON|SOLDIER
1FA70||BALLET SHOES
1FA71||ONE-PIECE SWIMSUIT|BRIEFS|SHORTS|THONG SANDAL
1FA78||DROP OF BLOOD
1FA79||ADHESIVE BANDAGE|STETHOSCOPE|X-RAY|CRUTCH
1FA80||YO-YO|KITE|PARACHUTE
1FA83||BOOMERANG|MAGIC WAND|PINATA|NESTING DOLLS
1FA90||RINGED PLANET
1FA91||CHAIR|RAZOR|AXE|DIYA LAMP
1FA95||BANJO|MILITARY HELMET|ACCORDION|LONG DRUM
1FA99||COIN|CARPENTRY SAW|SCREWDRIVER|LADDER
1FA9D||HOOK|MIRROR|WINDOW|PLUNGER
1FAA1||SEWING NEEDLE|KNOT|BUCKET|MOUSE TRAP
1FAA5||TOOTHBRUSH|HEADSTONE|PLACARD|ROCK
1FAA9||MIRROR BALL|IDENTIFICATION CARD|LOW BATTERY|HAMSA
1FAB0||FLY|WORM|BEETLE
1FAB3||COCKROACH|POTTED PLANT|WOOD|FEATHER
1FAB7||LOTUS|CORAL|EMPTY NEST|NEST WITH EGGS
1FAC0||ANATOMICAL HEART|LUNGS
1FAC2|P|EOPLE HUGGING|REGNANT MAN|REGNANT PERSON|ERSON WITH CROWN
1FAD0|B|LUEBERRIES|ELL PEPPER
1FAD2||OLIVE|FLATBREAD|TAMALE|FONDUE
1FAD6||TEAPOT|POURING LIQUID|BEANS|JAR
1FAE0||MELTING FACE|SALUTING FACE
1FAE2|FACE WITH |OPEN EYES AND HAND OVER MOUTH|PEEKING EYE|DIAGONAL MOUTH
1FAE5||DOTTED LINE FACE|BITING LIP|BUBBLES
1FAF0||HAND WITH INDEX FINGER AND THUMB CROSSED|RIGHTWARDS HAND|LEFTWARDS HAND
1FAF3||PALM DOWN HAND|PALM UP HAND|INDEX POINTING AT THE VIEWER|HEART HANDS
1FB00|BLOCK SEXTANT-|1|2|12|3|13|23|123|4|14|24|124|34|134|234|1234|5|15|25|125|35
1FB14|BLOCK SEXTANT-|235|1235|45|145|245|1245|345|1345|2345|12345|6|16|26|126|36|136|236|1236|46|146|1246|346
1FB2A|BLOCK SEXTANT-|1346|2346|12346|56|156|256|1256|356|1356|2356|12356|456|1456|2456|12456|3456|13456|23456
1FB3C|LOWER LEFT BLOCK DIAGONAL LOWER MIDDLE LEFT TO LOWER |CENTRE|RIGHT
1FB3E|LOWER LEFT BLOCK DIAGONAL UPPER MIDDLE LEFT TO LOWER |CENTRE|RIGHT
1FB40||LOWER LEFT BLOCK DIAGONAL UPPER LEFT TO LOWER CENTRE
1FB41|LOWER RIGHT BLOCK DIAGONAL UPPER MIDDLE LEFT TO UPPER |CENTRE|RIGHT
1FB43|LOWER RIGHT BLOCK DIAGONAL LOWER MIDDLE LEFT TO UPPER |CENTRE|RIGHT
1FB45||LOWER RIGHT BLOCK DIAGONAL LOWER LEFT TO UPPER CENTRE
1FB46|LOWER RIGHT BLOCK DIAGONAL LOWER |MIDDLE LEFT TO UPPER MIDDLE RIGHT|CENTRE TO LOWER MIDDLE RIGHT
1FB48|LOWER RIGHT BLOCK DIAGONAL LOWER |LEFT TO LOWER MIDDLE RIGHT|CENTRE TO UPPER MIDDLE RIGHT
1FB4A|LOWER RIGHT BLOCK DIAGONAL LOWER |LEFT TO UPPER MIDDLE RIGHT|CENTRE TO UPPER RIGHT
1FB4C|LOWER LEFT BLOCK DIAGONAL UPPER |CENTRE TO UPPER MIDDLE RIGHT|LEFT TO UPPER MIDDLE RIGHT
1FB4E|LOWER LEFT BLOCK DIAGONAL UPPER |CENTRE TO LOWER MIDDLE RIGHT|LEFT TO LOWER MIDDLE RIGHT
1FB50|LOWER LEFT BLOCK DIAGONAL UPPER |CENTRE TO LOWER RIGHT|MIDDLE LEFT TO LOWER MIDDLE RIGHT
1FB52|UPPER RIGHT BLOCK DIAGONAL LOWER MIDDLE LEFT TO LOWER |CENTRE|RIGHT
1FB54|UPPER RIGHT BLOCK DIAGONAL UPPER MIDDLE LEFT TO LOWER |CENTRE|RIGHT
1FB56||UPPER RIGHT BLOCK DIAGONAL UPPER LEFT TO LOWER CENTRE
1FB57|UPPER LEFT BLOCK DIAGONAL UPPER MIDDLE LEFT TO UPPER |CENTRE|RIGHT
1FB59|UPPER LEFT BLOCK DIAGONAL LOWER MIDDLE LEFT TO UPPER |CENTRE|RIGHT
1FB5B||UPPER LEFT BLOCK DIAGONAL LOWER LEFT TO UPPER CENTRE
1FB5C|UPPER LEFT BLOCK DIAGONAL LOWER |MIDDLE LEFT TO UPPER MIDDLE RIGHT|CENTRE TO LOWER MIDDLE RIGHT
1FB5E|UPPER LEFT BLOCK DIAGONAL LOWER |LEFT TO LOWER MIDDLE RIGHT|CENTRE TO UPPER MIDDLE RIGHT
1FB60|UPPER LEFT BLOCK DIAGONAL LOWER |LEFT TO UPPER MIDDLE RIGHT|CENTRE TO UPPER RIGHT
1FB62|UPPER RIGHT BLOCK DIAGONAL UPPER |CENTRE TO UPPER MIDDLE RIGHT|LEFT TO UPPER MIDDLE RIGHT
1FB64|UPPER RIGHT BLOCK DIAGONAL UPPER |CENTRE TO LOWER MIDDLE RIGHT|LEFT TO LOWER MIDDLE RIGHT
1FB66|UPPER RIGHT BLOCK DIAGONAL UPPER |CENTRE TO LOWER RIGHT|MIDDLE LEFT TO LOWER MIDDLE RIGHT
1FB68||UPPER AND RIGHT AND LOWER TRIANGULAR THREE QUARTERS BLOCK
1FB69||LEFT AND LOWER AND RIGHT TRIANGULAR THREE QUARTERS BLOCK
1FB6A||UPPER AND LEFT AND LOWER TRIANGULAR THREE QUARTERS BLOCK
1FB6B|LEFT |AND UPPER AND RIGHT TRIANGULAR THREE QUARTERS BLOCK|TRIANGULAR ONE QUARTER BLOCK
1FB6D||UPPER TRIANGULAR ONE QUARTER BLOCK
1FB6E||RIGHT TRIANGULAR ONE QUARTER BLOCK|LOWER TRIANGULAR ONE QUARTER BLOCK
1FB70|VERTICAL ONE EIGHTH BLOCK-|2|3|4|5|6|7
1FB76|HORIZONTAL ONE EIGHTH BLOCK-|2|3|4|5|6|7
1FB7C|LEFT AND |LOWER ONE EIGHTH BLOCK|UPPER ONE EIGHTH BLOCK
1FB7E|RIGHT AND |UPPER ONE EIGHTH BLOCK|LOWER ONE EIGHTH BLOCK
1FB80||UPPER AND LOWER ONE EIGHTH BLOCK|HORIZONTAL ONE EIGHTH BLOCK-1358|UPPER ONE QUARTER BLOCK
1FB83|UPPER |THREE EIGHTHS BLOCK|FIVE EIGHTHS BLOCK|THREE QUARTERS BLOCK|SEVEN EIGHTHS BLOCK
1FB87|RIGHT |ONE QUARTER BLOCK|THREE EIGHTHS BLOCK|FIVE EIGHTHS BLOCK|THREE QUARTERS BLOCK
1FB8B||RIGHT SEVEN EIGHTHS BLOCK|LEFT HALF MEDIUM SHADE
1FB8D||RIGHT HALF MEDIUM SHADE|UPPER HALF MEDIUM SHADE|LOWER HALF MEDIUM SHADE|INVERSE MEDIUM SHADE
1FB91|UPPER HALF |BLOCK AND LOWER HALF INVERSE MEDIUM SHADE|INVERSE MEDIUM SHADE AND LOWER HALF BLOCK
1FB94||LEFT HALF INVERSE MEDIUM SHADE AND RIGHT HALF BLOCK
1FB95||CHECKER BOARD FILL|INVERSE CHECKER BOARD FILL|HEAVY HORIZONTAL FILL
1FB98|UPPER |LEFT TO LOWER RIGHT FILL|RIGHT TO LOWER LEFT FILL|AND LOWER TRIANGULAR HALF BLOCK
1FB9B||LEFT AND RIGHT TRIANGULAR HALF BLOCK
1FB9C|UPPER |LEFT TRIANGULAR MEDIUM SHADE|RIGHT TRIANGULAR MEDIUM SHADE
1FB9E|LOWER |RIGHT TRIANGULAR MEDIUM SHADE|LEFT TRIANGULAR MEDIUM SHADE
1FBA0|BOX DRAWINGS LIGHT DIAGONAL UPPER CENTRE TO MIDDLE |LEFT|RIGHT
1FBA2|BOX DRAWINGS LIGHT DIAGONAL MIDDLE |LEFT TO LOWER CENTRE|RIGHT TO LOWER CENTRE
1FBA4|BOX DRAWINGS LIGHT DIAGONAL UPPER CENTRE TO MIDDLE |LEFT TO LOWER CENTRE|RIGHT TO LOWER CENTRE
1FBA6|BOX DRAWINGS LIGHT DIAGONAL MIDDLE LEFT TO |LOWER CENTRE TO MIDDLE RIGHT|UPPER CENTRE TO MIDDLE RIGHT
1FBA8||BOX DRAWINGS LIGHT DIAGONAL UPPER CENTRE TO MIDDLE LEFT AND MIDDLE RIGHT TO LOWER CENTRE
1FBA9||BOX DRAWINGS LIGHT DIAGONAL UPPER CENTRE TO MIDDLE RIGHT AND MIDDLE LEFT TO LOWER CENTRE
1FBAA||BOX DRAWINGS LIGHT DIAGONAL UPPER CENTRE TO MIDDLE RIGHT TO LOWER CENTRE TO MIDDLE LEFT
1FBAB||BOX DRAWINGS LIGHT DIAGONAL UPPER CENTRE TO MIDDLE LEFT TO LOWER CENTRE TO MIDDLE RIGHT
1FBAC||BOX DRAWINGS LIGHT DIAGONAL MIDDLE LEFT TO UPPER CENTRE TO MIDDLE RIGHT TO LOWER CENTRE
1FBAD|BOX DRAWINGS LIGHT DIAGONAL |MIDDLE RIGHT TO UPPER CENTRE TO MIDDLE LEFT TO LOWER CENTRE|DIAMOND
1FBAF||BOX DRAWINGS LIGHT HORIZONTAL WITH VERTICAL STROKE
1FBB0||ARROWHEAD-SHAPED POINTER|INVERSE CHECK MARK|LEFT HALF RUNNING MAN|RIGHT HALF RUNNING MAN
1FBB4||INVERSE DOWNWARDS ARROW WITH TIP LEFTWARDS|LEFTWARDS ARROW AND UPPER AND LOWER ONE EIGHTH BLOCK
1FBB6||RIGHTWARDS ARROW AND UPPER AND LOWER ONE EIGHTH BLOCK
1FBB7||DOWNWARDS ARROW AND RIGHT ONE EIGHTH BLOCK|UPWARDS ARROW AND RIGHT ONE EIGHTH BLOCK
1FBB9||LEFT HALF FOLDER|RIGHT HALF FOLDER|VOIDED GREEK CROSS|RIGHT OPEN SQUARED DOT
1FBBD|NEGATIVE DIAGONAL |CROSS|MIDDLE RIGHT TO LOWER CENTRE|DIAMOND
1FBC0||WHITE HEAVY SALTIRE WITH ROUNDED CORNERS
1FBC1||LEFT THIRD WHITE RIGHT POINTING INDEX|MIDDLE THIRD WHITE RIGHT POINTING INDEX
1FBC3||RIGHT THIRD WHITE RIGHT POINTING INDEX|NEGATIVE SQUARED QUESTION MARK
1FBC5|STICK FIGURE|| WITH ARMS RAISED| LEANING LEFT| LEANING RIGHT| WITH DRESS
1FBCA||WHITE UP-POINTING CHEVRON
1FBF0|SEGMENTED DIGIT |ZERO|ONE|TWO|THREE|FOUR|FIVE|SIX|SEVEN|EIGHT|NINE
E0001||LANGUAGE TAG
E0020|TAG |SPACE|EXCLAMATION MARK|QUOTATION MARK|NUMBER SIGN|DOLLAR SIGN|PERCENT SIGN|AMPERSAND|APOSTROPHE
E0028|TAG |LEFT PARENTHESIS|RIGHT PARENTHESIS|ASTERISK|PLUS SIGN|COMMA|HYPHEN-MINUS|FULL STOP|SOLIDUS
E0030|TAG DIGIT |ZERO|ONE|TWO|THREE|FOUR|FIVE|SIX|SEVEN|EIGHT|NINE
E003A|TAG |COLON|SEMICOLON|LESS-THAN SIGN|EQUALS SIGN|GREATER-THAN SIGN|QUESTION MARK|COMMERCIAL AT
E0041|TAG LATIN CAPITAL LETTER |A|B|C|D|E|F|G|H|I|J|K|L|M|N|O|P|Q|R|S|T|U|V|W|X|Y|Z
E005B|TAG |LEFT SQUARE BRACKET|REVERSE SOLIDUS|RIGHT SQUARE BRACKET|CIRCUMFLEX ACCENT|LOW LINE|GRAVE ACCENT
E0061|TAG LATIN SMALL LETTER |A|B|C|D|E|F|G|H|I|J|K|L|M|N|O|P|Q|R|S|T|U|V|W|X|Y|Z
E007B|TAG |LEFT CURLY BRACKET|VERTICAL LINE|RIGHT CURLY BRACKET|TILDE
E007F||CANCEL TAG
E0100|VARIATION SELECTOR-|17|18|19|20|21|22|23|24|25|26|27|28|29|30|31|32|33|34|35|36|37|38|39|40|41|42|43
E011B|VARIATION SELECTOR-|44|45|46|47|48|49|50|51|52|53|54|55|56|57|58|59|60|61|62|63|64|65|66|67|68|69|70|71
E0137|VARIATION SELECTOR-|72|73|74|75|76|77|78|79|80|81|82|83|84|85|86|87|88|89|90|91|92|93|94|95|96|97|98|99
E0153|VARIATION SELECTOR-1|00|01|02|03|04|05|06|07|08|09|10|11|12|13|14|15|16|17|18
E0166|VARIATION SELECTOR-1|19|20|21|22|23|24|25|26|27|28|29|30|31|32|33|34|35|36|37|38|39|40|41|42|43|44|45
E0181|VARIATION SELECTOR-1|46|47|48|49|50|51|52|53|54|55|56|57|58|59|60|61|62|63|64|65|66|67|68|69|70|71|72
E019C|VARIATION SELECTOR-1|73|74|75|76|77|78|79|80|81|82|83|84|85|86|87|88|89|90|91|92|93|94|95|96|97|98|99
E01B7|VARIATION SELECTOR-20|0|1|2|3|4|5|6|7|8|9
E01C1|VARIATION SELECTOR-2|10|11|12|13|14|15|16|17|18|19|20|21|22|23|24|25|26|27|28|29
E01D5|VARIATION SELECTOR-2|30|31|32|33|34|35|36|37|38|39|40|41|42|43|44|45|46|47|48|49|50|51|52|53|54|55|56"

end GraphGateway.Text.CharacterName
