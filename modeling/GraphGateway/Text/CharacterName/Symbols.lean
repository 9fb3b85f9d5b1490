/-!
# Character names, U+2000 to U+2FFF

Each line names consecutive code points: the first of them, what their names begin with, and how each
name goes on.
-/

namespace GraphGateway.Text.CharacterName

/-- The names of the characters from U+2000 to U+2FFF. -/
def symbols : String :=
"2000|E|N QUAD|M QUAD|N SPACE|M SPACE
2004||THREE-PER-EM SPACE|FOUR-PER-EM SPACE|SIX-PER-EM SPACE
2007||FIGURE SPACE|PUNCTUATION SPACE|THIN SPACE|HAIR SPACE
200B|ZERO WIDTH |SPACE|NON-JOINER|JOINER
200E||LEFT-TO-RIGHT MARK|RIGHT-TO-LEFT MARK|HYPHEN|NON-BREAKING HYPHEN
2012||FIGURE DASH|EN DASH|EM DASH|HORIZONTAL BAR
2016|DOUBLE |VERTICAL LINE|LOW LINE
2018||LEFT SINGLE QUOTATION MARK|RIGHT SINGLE QUOTATION MARK|SINGLE LOW-9 QUOTATION MARK
201B||SINGLE HIGH-REVERSED-9 QUOTATION MARK|LEFT DOUBLE QUOTATION MARK|RIGHT DOUBLE QUOTATION MARK
201E|DOUBLE |LOW-9 QUOTATION MARK|HIGH-REVERSED-9 QUOTATION MARK
2020||DAGGER|DOUBLE DAGGER|BULLET|TRIANGULAR BULLET
2024||ONE DOT LEADER|TWO DOT LEADER|HORIZONTAL ELLIPSIS|HYPHENATION POINT
2028||LINE SEPARATOR|PARAGRAPH SEPARATOR|LEFT-TO-RIGHT EMBEDDING|RIGHT-TO-LEFT EMBEDDING
202C||POP DIRECTIONAL FORMATTING|LEFT-TO-RIGHT OVERRIDE|RIGHT-TO-LEFT OVERRIDE|NARROW NO-BREAK SPACE
2030|PER |MILLE SIGN|TEN THOUSAND SIGN
2032||PRIME|DOUBLE PRIME|TRIPLE PRIME
2035|REVERSED |PRIME|DOUBLE PRIME|TRIPLE PRIME
2038||CARET|SINGLE LEFT-POINTING ANGLE QUOTATION MARK|SINGLE RIGHT-POINTING ANGLE QUOTATION MARK
203B||REFERENCE MARK|DOUBLE EXCLAMATION MARK|INTERROBANG|OVERLINE
203F||UNDERTIE|CHARACTER TIE|CARET INSERTION POINT|ASTERISM
2043||HYPHEN BULLET|FRACTION SLASH|LEFT SQUARE BRACKET WITH QUILL|RIGHT SQUARE BRACKET WITH QUILL
2047||DOUBLE QUESTION MARK|QUESTION EXCLAMATION MARK|EXCLAMATION QUESTION MARK
204A||TIRONIAN SIGN ET|REVERSED PILCROW SIGN|BLACK LEFTWARDS BULLET|BLACK RIGHTWARDS BULLET
204E||LOW ASTERISK|REVERSED SEMICOLON|CLOSE UP|TWO ASTERISKS ALIGNED VERTICALLY
2052||COMMERCIAL MINUS SIGN|SWUNG DASH|INVERTED UNDERTIE|FLOWER PUNCTUATION MARK
2056||THREE DOT PUNCTUATION|QUADRUPLE PRIME|FOUR DOT PUNCTUATION|FIVE DOT PUNCTUATION
205A||TWO DOT PUNCTUATION|FOUR DOT MARK|DOTTED CROSS|TRICOLON
205E||VERTICAL FOUR DOTS|MEDIUM MATHEMATICAL SPACE|WORD JOINER|FUNCTION APPLICATION
2062|INVISIBLE |TIMES|SEPARATOR|PLUS
2066||LEFT-TO-RIGHT ISOLATE|RIGHT-TO-LEFT ISOLATE
2068||FIRST STRONG ISOLATE|POP DIRECTIONAL ISOLATE|INHIBIT SYMMETRIC SWAPPING|ACTIVATE SYMMETRIC SWAPPING
206C||INHIBIT ARABIC FORM SHAPING|ACTIVATE ARABIC FORM SHAPING|NATIONAL DIGIT SHAPES|NOMINAL DIGIT SHAPES
2070|SUPERSCRIPT |ZERO|LATIN SMALL LETTER I
2074|SUPERSCRIPT |FOUR|FIVE|SIX|SEVEN|EIGHT
2079|SUPERSCRIPT |NINE|PLUS SIGN|MINUS|EQUALS SIGN|LEFT PARENTHESIS|RIGHT PARENTHESIS|LATIN SMALL LETTER N
2080|SUBSCRIPT |ZERO|ONE|TWO|THREE|FOUR
2085|SUBSCRIPT |FIVE|SIX|SEVEN|EIGHT|NINE|PLUS SIGN|MINUS|EQUALS SIGN|LEFT PARENTHESIS|RIGHT PARENTHESIS
2090|LATIN SUBSCRIPT SMALL LETTER |A|E|O|X|SCHWA|H|K|L|M|N|P|S|T
20A0||EURO-CURRENCY SIGN
20A1||COLON SIGN|CRUZEIRO SIGN|FRENCH FRANC SIGN|LIRA SIGN
20A5||MILL SIGN|NAIRA SIGN|PESETA SIGN|RUPEE SIGN
20A9||WON SIGN|NEW SHEQEL SIGN|DONG SIGN|EURO SIGN
20AD||KIP SIGN|TUGRIK SIGN|DRACHMA SIGN|GERMAN PENNY SIGN
20B1||PESO SIGN|GUARANI SIGN|AUSTRAL SIGN|HRYVNIA SIGN
20B5||CEDI SIGN|LIVRE TOURNOIS SIGN|SPESMILO SIGN|TENGE SIGN
20B9||INDIAN RUPEE SIGN|TURKISH LIRA SIGN|NORDIC MARK SIGN|MANAT SIGN
20BD||RUBLE SIGN|LARI SIGN|BITCOIN SIGN|SOM SIGN
20D0|COMBINING |LEFT HARPOON ABOVE|RIGHT HARPOON ABOVE|LONG VERTICAL LINE OVERLAY
20D3|COMBINING |SHORT VERTICAL LINE OVERLAY|ANTICLOCKWISE ARROW ABOVE|CLOCKWISE ARROW ABOVE|LEFT ARROW ABOVE
20D7|COMBINING RI|GHT ARROW ABOVE|NG OVERLAY
20D9|COMBINING |CLOCKWISE RING OVERLAY|ANTICLOCKWISE RING OVERLAY|THREE DOTS ABOVE|FOUR DOTS ABOVE
20DD|COMBINING ENCLOSING |CIRCLE|SQUARE|DIAMOND|CIRCLE BACKSLASH
20E1||COMBINING LEFT RIGHT ARROW ABOVE
20E2|COMBINING ENCLOSING |SCREEN|KEYCAP|UPWARD POINTING TRIANGLE
20E5||COMBINING REVERSE SOLIDUS OVERLAY
20E6|COMBINING |DOUBLE VERTICAL STROKE OVERLAY|ANNUITY SYMBOL|TRIPLE UNDERDOT|WIDE BRIDGE ABOVE
20EA|COMBINING |LEFTWARDS ARROW OVERLAY|LONG DOUBLE SOLIDUS OVERLAY|RIGHTWARDS HARPOON WITH BARB DOWNWARDS
20ED|COMBINING |LEFTWARDS HARPOON WITH BARB DOWNWARDS|LEFT ARROW BELOW|RIGHT ARROW BELOW|ASTERISK ABOVE
2100||ACCOUNT OF|ADDRESSED TO THE SUBJECT|DOUBLE-STRUCK CAPITAL C|DEGREE CELSIUS
2104|C|ENTRE LINE SYMBOL|ARE OF|ADA UNA
2107||EULER CONSTANT|SCRUPLE|DEGREE FAHRENHEIT
210A||SCRIPT SMALL G|SCRIPT CAPITAL H|BLACK-LETTER CAPITAL H|DOUBLE-STRUCK CAPITAL H
210E|PLANCK CONSTANT|| OVER TWO PI
2110||SCRIPT CAPITAL I|BLACK-LETTER CAPITAL I|SCRIPT CAPITAL L
2113||SCRIPT SMALL L|L B BAR SYMBOL|DOUBLE-STRUCK CAPITAL N|NUMERO SIGN
2117|S|OUND RECORDING COPYRIGHT|CRIPT CAPITAL P
2119|DOUBLE-STRUCK CAPITAL |P|Q
211B||SCRIPT CAPITAL R|BLACK-LETTER CAPITAL R|DOUBLE-STRUCK CAPITAL R|PRESCRIPTION TAKE
211F||RESPONSE|SERVICE MARK|TELEPHONE SIGN|TRADE MARK SIGN
2123||VERSICLE|DOUBLE-STRUCK CAPITAL Z|OUNCE SIGN|OHM SIGN
2127||INVERTED OHM SIGN|BLACK-LETTER CAPITAL Z|TURNED GREEK SMALL LETTER IOTA|KELVIN SIGN
212B||ANGSTROM SIGN|SCRIPT CAPITAL B|BLACK-LETTER CAPITAL C|ESTIMATED SYMBOL
212F|SCRIPT |SMALL E|CAPITAL E|CAPITAL F
2132||TURNED CAPITAL F|SCRIPT CAPITAL M
2134||SCRIPT SMALL O|ALEF SYMBOL|BET SYMBOL|GIMEL SYMBOL
2138||DALET SYMBOL|INFORMATION SOURCE|ROTATED CAPITAL Q|FACSIMILE SIGN
213C|DOUBLE-STRUCK |SMALL PI|SMALL GAMMA|CAPITAL GAMMA|CAPITAL PI|N-ARY SUMMATION
2141|TURNED SANS-SERIF CAPITAL |G|L
2143||REVERSED SANS-SERIF CAPITAL L|TURNED SANS-SERIF CAPITAL Y
2145|DOUBLE-STRUCK ITALIC |CAPITAL D|SMALL D|SMALL E|SMALL I|SMALL J
214A||PROPERTY LINE|TURNED AMPERSAND
214C||PER SIGN|AKTIESELSKAB|TURNED SMALL F|SYMBOL FOR SAMARITAN SOURCE
2150|VULGAR FRACTION |ONE SEVENTH|ONE NINTH|ONE TENTH|ONE THIRD|TWO THIRDS|ONE FIFTH|TWO FIFTHS|THREE FIFTHS
2158|VULGAR FRACTION |FOUR FIFTHS|ONE SIXTH|FIVE SIXTHS|ONE EIGHTH|THREE EIGHTHS|FIVE EIGHTHS|SEVEN EIGHTHS
215F||FRACTION NUMERATOR ONE
2160|ROMAN NUMERAL |ONE|TWO|THREE|FOUR
2164|ROMAN NUMERAL |FIVE|SIX|SEVEN|EIGHT|NINE|TEN|ELEVEN|TWELVE|FIFTY|ONE HUNDRED|FIVE HUNDRED|ONE THOUSAND
2170|SMALL ROMAN NUMERAL |ONE|TWO|THREE|FOUR|FIVE
2175|SMALL ROMAN NUMERAL |SIX|SEVEN|EIGHT|NINE|TEN|ELEVEN|TWELVE|FIFTY|ONE HUNDRED|FIVE HUNDRED|ONE THOUSAND
2180|ROMAN NUMERAL |ONE THOUSAND C D|FIVE THOUSAND|TEN THOUSAND|REVERSED ONE HUNDRED
2184||LATIN SMALL LETTER REVERSED C
2185|ROMAN NUMERAL |SIX LATE FORM|FIFTY EARLY FORM|FIFTY THOUSAND|ONE HUNDRED THOUSAND
2189||VULGAR FRACTION ZERO THIRDS
218A|TURNED DIGIT T|WO|HREE
2190||LEFTWARDS ARROW|UPWARDS ARROW|RIGHTWARDS ARROW|DOWNWARDS ARROW
2194||LEFT RIGHT ARROW|UP DOWN ARROW|NORTH WEST ARROW|NORTH EAST ARROW
2198|SOUTH |EAST ARROW|WEST ARROW
219A||LEFTWARDS ARROW WITH STROKE|RIGHTWARDS ARROW WITH STROKE|LEFTWARDS WAVE ARROW
219D||RIGHTWARDS WAVE ARROW|LEFTWARDS TWO HEADED ARROW|UPWARDS TWO HEADED ARROW|RIGHTWARDS TWO HEADED ARROW
21A1||DOWNWARDS TWO HEADED ARROW|LEFTWARDS ARROW WITH TAIL|RIGHTWARDS ARROW WITH TAIL
21A4||LEFTWARDS ARROW FROM BAR|UPWARDS ARROW FROM BAR|RIGHTWARDS ARROW FROM BAR|DOWNWARDS ARROW FROM BAR
21A8||UP DOWN ARROW WITH BASE|LEFTWARDS ARROW WITH HOOK|RIGHTWARDS ARROW WITH HOOK|LEFTWARDS ARROW WITH LOOP
21AC||RIGHTWARDS ARROW WITH LOOP|LEFT RIGHT WAVE ARROW|LEFT RIGHT ARROW WITH STROKE|DOWNWARDS ZIGZAG ARROW
21B0|UPWARDS ARROW WITH TIP |LEFTWARDS|RIGHTWARDS
21B2|DOWNWARDS ARROW WITH TIP |LEFTWARDS|RIGHTWARDS
21B4||RIGHTWARDS ARROW WITH CORNER DOWNWARDS|DOWNWARDS ARROW WITH CORNER LEFTWARDS
21B6||ANTICLOCKWISE TOP SEMICIRCLE ARROW|CLOCKWISE TOP SEMICIRCLE ARROW
21B8||NORTH WEST ARROW TO LONG BAR|LEFTWARDS ARROW TO BAR OVER RIGHTWARDS ARROW TO BAR
21BA||ANTICLOCKWISE OPEN CIRCLE ARROW|CLOCKWISE OPEN CIRCLE ARROW
21BC|LEFTWARDS HARPOON WITH BARB |UPWARDS|DOWNWARDS
21BE|UPWARDS HARPOON WITH BARB |RIGHTWARDS|LEFTWARDS
21C0|RIGHTWARDS HARPOON WITH BARB |UPWARDS|DOWNWARDS
21C2|DOWNWARDS HARPOON WITH BARB |RIGHTWARDS|LEFTWARDS
21C4||RIGHTWARDS ARROW OVER LEFTWARDS ARROW|UPWARDS ARROW LEFTWARDS OF DOWNWARDS ARROW
21C6|LEFTWARDS |ARROW OVER RIGHTWARDS ARROW|PAIRED ARROWS
21C8||UPWARDS PAIRED ARROWS|RIGHTWARDS PAIRED ARROWS|DOWNWARDS PAIRED ARROWS
21CB||LEFTWARDS HARPOON OVER RIGHTWARDS HARPOON|RIGHTWARDS HARPOON OVER LEFTWARDS HARPOON
21CD|LEFT|WARDS DOUBLE ARROW WITH STROKE| RIGHT DOUBLE ARROW WITH STROKE
21CF||RIGHTWARDS DOUBLE ARROW WITH STROKE|LEFTWARDS DOUBLE ARROW|UPWARDS DOUBLE ARROW
21D2||RIGHTWARDS DOUBLE ARROW|DOWNWARDS DOUBLE ARROW|LEFT RIGHT DOUBLE ARROW|UP DOWN DOUBLE ARROW
21D6|NORTH |WEST DOUBLE ARROW|EAST DOUBLE ARROW
21D8||SOUTH EAST DOUBLE ARROW|SOUTH WEST DOUBLE ARROW|LEFTWARDS TRIPLE ARROW|RIGHTWARDS TRIPLE ARROW
21DC||LEFTWARDS SQUIGGLE ARROW|RIGHTWARDS SQUIGGLE ARROW|UPWARDS ARROW WITH DOUBLE STROKE
21DF||DOWNWARDS ARROW WITH DOUBLE STROKE|LEFTWARDS DASHED ARROW|UPWARDS DASHED ARROW|RIGHTWARDS DASHED ARROW
21E3||DOWNWARDS DASHED ARROW|LEFTWARDS ARROW TO BAR|RIGHTWARDS ARROW TO BAR|LEFTWARDS WHITE ARROW
21E7||UPWARDS WHITE ARROW|RIGHTWARDS WHITE ARROW|DOWNWARDS WHITE ARROW|UPWARDS WHITE ARROW FROM BAR
21EB|UPWARDS WHITE ARROW ON PEDESTAL|| WITH HORIZONTAL BAR| WITH VERTICAL BAR
21EE|UPWARDS WHITE DOUBLE ARROW|| ON PEDESTAL
21F0||RIGHTWARDS WHITE ARROW FROM WALL|NORTH WEST ARROW TO CORNER|SOUTH EAST ARROW TO CORNER
21F3||UP DOWN WHITE ARROW|RIGHT ARROW WITH SMALL CIRCLE|DOWNWARDS ARROW LEFTWARDS OF UPWARDS ARROW
21F6||THREE RIGHTWARDS ARROWS|LEFTWARDS ARROW WITH VERTICAL STROKE|RIGHTWARDS ARROW WITH VERTICAL STROKE
21F9|LEFT| RIGHT ARROW WITH VERTICAL STROKE|WARDS ARROW WITH DOUBLE VERTICAL STROKE
21FB||RIGHTWARDS ARROW WITH DOUBLE VERTICAL STROKE
21FC||LEFT RIGHT ARROW WITH DOUBLE VERTICAL STROKE|LEFTWARDS OPEN-HEADED ARROW|RIGHTWARDS OPEN-HEADED ARROW
21FF||LEFT RIGHT OPEN-HEADED ARROW|FOR ALL|COMPLEMENT|PARTIAL DIFFERENTIAL
2203||THERE EXISTS|THERE DOES NOT EXIST|EMPTY SET|INCREMENT
2207||NABLA|ELEMENT OF|NOT AN ELEMENT OF|SMALL ELEMENT OF
220B||CONTAINS AS MEMBER|DOES NOT CONTAIN AS MEMBER|SMALL CONTAINS AS MEMBER|END OF PROOF
220F|N-ARY |PRODUCT|COPRODUCT|SUMMATION
2212|MINUS| SIGN|-OR-PLUS SIGN
2214||DOT PLUS|DIVISION SLASH|SET MINUS
2217||ASTERISK OPERATOR|RING OPERATOR|BULLET OPERATOR|SQUARE ROOT
221B||CUBE ROOT|FOURTH ROOT|PROPORTIONAL TO|INFINITY
221F||RIGHT ANGLE|ANGLE|MEASURED ANGLE|SPHERICAL ANGLE
2223||DIVIDES|DOES NOT DIVIDE|PARALLEL TO|NOT PARALLEL TO
2227|LOGICAL |AND|OR
2229||INTERSECTION|UNION|INTEGRAL|DOUBLE INTEGRAL
222D||TRIPLE INTEGRAL|CONTOUR INTEGRAL|SURFACE INTEGRAL|VOLUME INTEGRAL
2231|CLOCKWISE |INTEGRAL|CONTOUR INTEGRAL
2233||ANTICLOCKWISE CONTOUR INTEGRAL|THEREFORE
2235||BECAUSE|RATIO|PROPORTION|DOT MINUS
2239||EXCESS|GEOMETRIC PROPORTION|HOMOTHETIC|TILDE OPERATOR
223D||REVERSED TILDE|INVERTED LAZY S|SINE WAVE|WREATH PRODUCT
2241||NOT TILDE|MINUS TILDE|ASYMPTOTICALLY EQUAL TO|NOT ASYMPTOTICALLY EQUAL TO
2245|APPROXIMATELY |EQUAL TO|BUT NOT ACTUALLY EQUAL TO
2247||NEITHER APPROXIMATELY NOR ACTUALLY EQUAL TO|ALMOST EQUAL TO|NOT ALMOST EQUAL TO
224A||ALMOST EQUAL OR EQUAL TO|TRIPLE TILDE|ALL EQUAL TO|EQUIVALENT TO
224E||GEOMETRICALLY EQUIVALENT TO|DIFFERENCE BETWEEN|APPROACHES THE LIMIT|GEOMETRICALLY EQUAL TO
2252||APPROXIMATELY EQUAL TO OR THE IMAGE OF|IMAGE OF OR APPROXIMATELY EQUAL TO|COLON EQUALS
2255||EQUALS COLON|RING IN EQUAL TO|RING EQUAL TO|CORRESPONDS TO
2259||ESTIMATES|EQUIANGULAR TO|STAR EQUALS|DELTA EQUAL TO
225D||EQUAL TO BY DEFINITION|MEASURED BY|QUESTIONED EQUAL TO|NOT EQUAL TO
2261||IDENTICAL TO|NOT IDENTICAL TO|STRICTLY EQUIVALENT TO|LESS-THAN OR EQUAL TO
2265||GREATER-THAN OR EQUAL TO|LESS-THAN OVER EQUAL TO|GREATER-THAN OVER EQUAL TO|LESS-THAN BUT NOT EQUAL TO
2269||GREATER-THAN BUT NOT EQUAL TO|MUCH LESS-THAN|MUCH GREATER-THAN|BETWEEN
226D|NOT |EQUIVALENT TO|LESS-THAN|GREATER-THAN
2270|NEITHER |LESS-THAN NOR EQUAL TO|GREATER-THAN NOR EQUAL TO
2272||LESS-THAN OR EQUIVALENT TO|GREATER-THAN OR EQUIVALENT TO
2274|NEITHER |LESS-THAN NOR EQUIVALENT TO|GREATER-THAN NOR EQUIVALENT TO
2276||LESS-THAN OR GREATER-THAN|GREATER-THAN OR LESS-THAN
2278|NEITHER |LESS-THAN NOR GREATER-THAN|GREATER-THAN NOR LESS-THAN
227A||PRECEDES|SUCCEEDS
227C||PRECEDES OR EQUAL TO|SUCCEEDS OR EQUAL TO|PRECEDES OR EQUIVALENT TO|SUCCEEDS OR EQUIVALENT TO
2280|DOES NOT |PRECEDE|SUCCEED
2282|SU|BSET OF|PERSET OF
2284|NOT A SU|BSET OF|PERSET OF
2286|SU|BSET OF OR EQUAL TO|PERSET OF OR EQUAL TO
2288|NEITHER A SU|BSET OF NOR EQUAL TO|PERSET OF NOR EQUAL TO
228A|SU|BSET OF WITH NOT EQUAL TO|PERSET OF WITH NOT EQUAL TO
228C|MULTISET|| MULTIPLICATION| UNION
228F|SQUARE |IMAGE OF|ORIGINAL OF|IMAGE OF OR EQUAL TO|ORIGINAL OF OR EQUAL TO|CAP|CUP
2295|CIRCLED |PLUS|MINUS|TIMES|DIVISION SLASH|DOT OPERATOR|RING OPERATOR|ASTERISK OPERATOR|EQUALS|DASH
229E|SQUARED |PLUS|MINUS|TIMES|DOT OPERATOR
22A2||RIGHT TACK|LEFT TACK
22A4||DOWN TACK|UP TACK|ASSERTION|MODELS
22A8||TRUE|FORCES|TRIPLE VERTICAL BAR RIGHT TURNSTILE|DOUBLE VERTICAL BAR DOUBLE RIGHT TURNSTILE
22AC||DOES NOT PROVE|NOT TRUE|DOES NOT FORCE|NEGATED DOUBLE VERTICAL BAR DOUBLE RIGHT TURNSTILE
22B0||PRECEDES UNDER RELATION|SUCCEEDS UNDER RELATION|NORMAL SUBGROUP OF|CONTAINS AS NORMAL SUBGROUP
22B4||NORMAL SUBGROUP OF OR EQUAL TO|CONTAINS AS NORMAL SUBGROUP OR EQUAL TO|ORIGINAL OF|IMAGE OF
22B8||MULTIMAP|HERMITIAN CONJUGATE MATRIX|INTERCALATE|XOR
22BC||NAND|NOR|RIGHT ANGLE WITH ARC|RIGHT TRIANGLE
22C0|N-ARY |LOGICAL AND|LOGICAL OR|INTERSECTION|UNION
22C4||DIAMOND OPERATOR|DOT OPERATOR|STAR OPERATOR
22C7||DIVISION TIMES|BOWTIE|LEFT NORMAL FACTOR SEMIDIRECT PRODUCT|RIGHT NORMAL FACTOR SEMIDIRECT PRODUCT
22CB||LEFT SEMIDIRECT PRODUCT|RIGHT SEMIDIRECT PRODUCT|REVERSED TILDE EQUALS
22CE|CURLY LOGICAL |OR|AND
22D0|DOUBLE |SUBSET|SUPERSET|INTERSECTION|UNION
22D4||PITCHFORK|EQUAL AND PARALLEL TO|LESS-THAN WITH DOT|GREATER-THAN WITH DOT
22D8|VERY MUCH |LESS-THAN|GREATER-THAN
22DA||LESS-THAN EQUAL TO OR GREATER-THAN|GREATER-THAN EQUAL TO OR LESS-THAN
22DC|EQUAL TO OR |LESS-THAN|GREATER-THAN|PRECEDES|SUCCEEDS
22E0|DOES NOT |PRECEDE OR EQUAL|SUCCEED OR EQUAL
22E2|NOT SQUARE |IMAGE OF OR EQUAL TO|ORIGINAL OF OR EQUAL TO
22E4|SQUARE |IMAGE OF OR NOT EQUAL TO|ORIGINAL OF OR NOT EQUAL TO
22E6||LESS-THAN BUT NOT EQUIVALENT TO|GREATER-THAN BUT NOT EQUIVALENT TO|PRECEDES BUT NOT EQUIVALENT TO
22E9||SUCCEEDS BUT NOT EQUIVALENT TO|NOT NORMAL SUBGROUP OF|DOES NOT CONTAIN AS NORMAL SUBGROUP
22EC||NOT NORMAL SUBGROUP OF OR EQUAL TO|DOES NOT CONTAIN AS NORMAL SUBGROUP OR EQUAL
22EE||VERTICAL ELLIPSIS|MIDLINE HORIZONTAL ELLIPSIS|UP RIGHT DIAGONAL ELLIPSIS|DOWN RIGHT DIAGONAL ELLIPSIS
22F2|ELEMENT OF WITH |LONG HORIZONTAL STROKE|VERTICAL BAR AT END OF HORIZONTAL STROKE
22F4||SMALL ELEMENT OF WITH VERTICAL BAR AT END OF HORIZONTAL STROKE
22F5|ELEMENT OF WITH |DOT ABOVE|OVERBAR
22F7||SMALL ELEMENT OF WITH OVERBAR
22F8|ELEMENT OF WITH |UNDERBAR|TWO HORIZONTAL STROKES
22FA|CONTAINS WITH |LONG HORIZONTAL STROKE|VERTICAL BAR AT END OF HORIZONTAL STROKE
22FC||SMALL CONTAINS WITH VERTICAL BAR AT END OF HORIZONTAL STROKE|CONTAINS WITH OVERBAR
22FE||SMALL CONTAINS WITH OVERBAR|Z NOTATION BAG MEMBERSHIP|DIAMETER SIGN|ELECTRIC ARROW
2302||HOUSE|UP ARROWHEAD|DOWN ARROWHEAD|PROJECTIVE
2306||PERSPECTIVE|WAVY LINE|LEFT CEILING|RIGHT CEILING
230A||LEFT FLOOR|RIGHT FLOOR|BOTTOM RIGHT CROP|BOTTOM LEFT CROP
230E|TOP |RIGHT CROP|LEFT CROP
2310||REVERSED NOT SIGN|SQUARE LOZENGE|ARC|SEGMENT
2314||SECTOR|TELEPHONE RECORDER|POSITION INDICATOR|VIEWDATA SQUARE
2318||PLACE OF INTEREST SIGN|TURNED NOT SIGN|WATCH|HOURGLASS
231C|TOP |LEFT CORNER|RIGHT CORNER
231E|BOTTOM |LEFT CORNER|RIGHT CORNER
2320||TOP HALF INTEGRAL|BOTTOM HALF INTEGRAL|FROWN|SMILE
2324||UP ARROWHEAD BETWEEN TWO HORIZONTAL BARS|OPTION KEY|ERASE TO THE RIGHT|X IN A RECTANGLE BOX
2328||KEYBOARD|LEFT-POINTING ANGLE BRACKET|RIGHT-POINTING ANGLE BRACKET|ERASE TO THE LEFT
232C||BENZENE RING|CYLINDRICITY|ALL AROUND-PROFILE|SYMMETRY
2330||TOTAL RUNOUT|DIMENSION ORIGIN|CONICAL TAPER|SLOPE
2334|COUNTER|BORE|SINK
2336|APL FUNCTIONAL SYMBOL |I-BEAM|SQUISH QUAD|QUAD EQUAL|QUAD DIVIDE|QUAD DIAMOND
233B|APL FUNCTIONAL SYMBOL |QUAD JOT|QUAD CIRCLE|CIRCLE STILE|CIRCLE JOT|SLASH BAR|BACKSLASH BAR
2341|APL FUNCTIONAL SYMBOL |QUAD SLASH|QUAD BACKSLASH|QUAD LESS-THAN|QUAD GREATER-THAN|LEFTWARDS VANE
2346|APL FUNCTIONAL SYMBOL |RIGHTWARDS VANE|QUAD LEFTWARDS ARROW|QUAD RIGHTWARDS ARROW|CIRCLE BACKSLASH
234A|APL FUNCTIONAL SYMBOL |DOWN TACK UNDERBAR|DELTA STILE|QUAD DOWN CARET|QUAD DELTA|DOWN TACK JOT
234F|APL FUNCTIONAL SYMBOL |UPWARDS VANE|QUAD UPWARDS ARROW|UP TACK OVERBAR|DEL STILE|QUAD UP CARET
2354|APL FUNCTIONAL SYMBOL |QUAD DEL|UP TACK JOT|DOWNWARDS VANE|QUAD DOWNWARDS ARROW|QUOTE UNDERBAR
2359|APL FUNCTIONAL SYMBOL |DELTA UNDERBAR|DIAMOND UNDERBAR|JOT UNDERBAR|CIRCLE UNDERBAR|UP SHOE JOT
235E|APL FUNCTIONAL SYMBOL |QUOTE QUAD|CIRCLE STAR|QUAD COLON|UP TACK DIAERESIS|DEL DIAERESIS|STAR DIAERESIS
2364|APL FUNCTIONAL SYMBOL |JOT DIAERESIS|CIRCLE DIAERESIS|DOWN SHOE STILE|LEFT SHOE STILE|TILDE DIAERESIS
2369|APL FUNCTIONAL SYMBOL |GREATER-THAN DIAERESIS|COMMA BAR|DEL TILDE|ZILDE|STILE TILDE|SEMICOLON UNDERBAR
236F|APL FUNCTIONAL SYMBOL |QUAD NOT EQUAL|QUAD QUESTION|DOWN CARET TILDE|UP CARET TILDE|IOTA
2374|APL FUNCTIONAL SYMBOL |RHO|OMEGA|ALPHA UNDERBAR|EPSILON UNDERBAR|IOTA UNDERBAR|OMEGA UNDERBAR|ALPHA
237B||NOT CHECK MARK|RIGHT ANGLE WITH DOWNWARDS ZIGZAG ARROW
237D||SHOULDERED OPEN BOX|BELL SYMBOL|VERTICAL LINE WITH MIDDLE DOT|INSERTION SYMBOL
2381||CONTINUOUS UNDERLINE SYMBOL|DISCONTINUOUS UNDERLINE SYMBOL|EMPHASIS SYMBOL|COMPOSITION SYMBOL
2385||WHITE SQUARE WITH CENTRE VERTICAL LINE|ENTER SYMBOL|ALTERNATIVE KEY SYMBOL|HELM SYMBOL
2389|CIRCLED |HORIZONTAL BAR WITH NOTCH|TRIANGLE DOWN
238B||BROKEN CIRCLE WITH NORTHWEST ARROW|UNDO SYMBOL|MONOSTABLE SYMBOL|HYSTERESIS SYMBOL
238F|OPEN-CIRCUIT-OUTPUT |H-TYPE SYMBOL|L-TYPE SYMBOL
2391|PASSIVE-PULL-|DOWN-OUTPUT SYMBOL|UP-OUTPUT SYMBOL
2393||DIRECT CURRENT SYMBOL FORM TWO
2394||SOFTWARE-FUNCTION SYMBOL|APL FUNCTIONAL SYMBOL QUAD|DECIMAL SEPARATOR KEY SYMBOL
2397||PREVIOUS PAGE|NEXT PAGE|PRINT SCREEN SYMBOL|CLEAR SCREEN SYMBOL
239B|LEFT PARENTHESIS |UPPER HOOK|EXTENSION|LOWER HOOK
239E|RIGHT PARENTHESIS |UPPER HOOK|EXTENSION|LOWER HOOK
23A1|LEFT SQUARE BRACKET |UPPER CORNER|EXTENSION|LOWER CORNER
23A4|RIGHT SQUARE BRACKET |UPPER CORNER|EXTENSION|LOWER CORNER
23A7|LEFT CURLY BRACKET |UPPER HOOK|MIDDLE PIECE|LOWER HOOK
23AA||CURLY BRACKET EXTENSION
23AB|RIGHT CURLY BRACKET |UPPER HOOK|MIDDLE PIECE|LOWER HOOK
23AE||INTEGRAL EXTENSION|HORIZONTAL LINE EXTENSION
23B0|UPPER |LEFT OR LOWER RIGHT CURLY BRACKET SECTION|RIGHT OR LOWER LEFT CURLY BRACKET SECTION
23B2|SUMMATION |TOP|BOTTOM
23B4||TOP SQUARE BRACKET
23B5|BOTTOM SQUARE BRACKET|| OVER TOP SQUARE BRACKET
23B7||RADICAL SYMBOL BOTTOM|LEFT VERTICAL BOX LINE|RIGHT VERTICAL BOX LINE
23BA|HORIZONTAL SCAN LINE-|1|3|7|9
23BE|DENTISTRY SYMBOL LIGHT VERTICAL |AND TOP RIGHT|AND BOTTOM RIGHT|WITH CIRCLE
23C1|DENTISTRY SYMBOL LIGHT |DOWN AND HORIZONTAL WITH CIRCLE|UP AND HORIZONTAL WITH CIRCLE
23C3|DENTISTRY SYMBOL LIGHT |VERTICAL WITH TRIANGLE|DOWN AND HORIZONTAL WITH TRIANGLE
23C5|DENTISTRY SYMBOL LIGHT |UP AND HORIZONTAL WITH TRIANGLE|VERTICAL AND WAVE|DOWN AND HORIZONTAL WITH WAVE
23C8|DENTISTRY SYMBOL LIGHT |UP AND HORIZONTAL WITH WAVE|DOWN AND HORIZONTAL|UP AND HORIZONTAL
23CB|DENTISTRY SYMBOL LIGHT VERTICAL AND |TOP LEFT|BOTTOM LEFT
23CD||SQUARE FOOT|RETURN SYMBOL|EJECT SYMBOL|VERTICAL LINE EXTENSION
23D1|METRICAL |BREVE|LONG OVER SHORT|SHORT OVER LONG
23D4|METRICAL |LONG OVER TWO SHORTS|TWO SHORTS OVER LONG|TWO SHORTS JOINED|TRISEME|TETRASEME|PENTASEME
23DA||EARTH GROUND|FUSE|TOP PARENTHESIS
23DD||BOTTOM PARENTHESIS|TOP CURLY BRACKET|BOTTOM CURLY BRACKET|TOP TORTOISE SHELL BRACKET
23E1||BOTTOM TORTOISE SHELL BRACKET|WHITE TRAPEZIUM|BENZENE RING WITH CIRCLE|STRAIGHTNESS
23E5||FLATNESS|AC CURRENT|ELECTRICAL INTERSECTION|DECIMAL EXPONENT SYMBOL
23E9|BLACK |RIGHT-POINTING DOUBLE TRIANGLE|LEFT-POINTING DOUBLE TRIANGLE|UP-POINTING DOUBLE TRIANGLE
23EC|BLACK |DOWN-POINTING DOUBLE TRIANGLE|RIGHT-POINTING DOUBLE TRIANGLE WITH VERTICAL BAR
23EE|BLACK |LEFT-POINTING DOUBLE TRIANGLE WITH VERTICAL BAR|RIGHT-POINTING TRIANGLE WITH DOUBLE VERTICAL BAR
23F0||ALARM CLOCK|STOPWATCH|TIMER CLOCK|HOURGLASS WITH FLOWING SAND
23F4|BLACK MEDIUM |LEFT-POINTING TRIANGLE|RIGHT-POINTING TRIANGLE|UP-POINTING TRIANGLE
23F7||BLACK MEDIUM DOWN-POINTING TRIANGLE|DOUBLE VERTICAL BAR|BLACK SQUARE FOR STOP|BLACK CIRCLE FOR RECORD
23FB|POWER |SYMBOL|ON-OFF SYMBOL|ON SYMBOL|SLEEP SYMBOL
23FF||OBSERVER EYE SYMBOL
2400|SYMBOL FOR |NULL|START OF HEADING|START OF TEXT
2403|SYMBOL FOR |END OF TEXT|END OF TRANSMISSION|ENQUIRY|ACKNOWLEDGE|BELL|BACKSPACE|HORIZONTAL TABULATION
240A|SYMBOL FOR |LINE FEED|VERTICAL TABULATION|FORM FEED|CARRIAGE RETURN|SHIFT OUT|SHIFT IN|DATA LINK ESCAPE
2411|SYMBOL FOR DEVICE CONTROL |ONE|TWO|THREE|FOUR
2415|SYMBOL FOR |NEGATIVE ACKNOWLEDGE|SYNCHRONOUS IDLE|END OF TRANSMISSION BLOCK|CANCEL|END OF MEDIUM
241A|SYMBOL FOR |SUBSTITUTE|ESCAPE|FILE SEPARATOR|GROUP SEPARATOR|RECORD SEPARATOR|UNIT SEPARATOR|SPACE
2421||SYMBOL FOR DELETE|BLANK SYMBOL|OPEN BOX
2424|SYMBOL FOR |NEWLINE|DELETE FORM TWO|SUBSTITUTE FORM TWO
2440|OCR |HOOK|CHAIR|FORK|INVERTED FORK|BELT BUCKLE
2445|OCR |BOW TIE|BRANCH BANK IDENTIFICATION|AMOUNT OF CHECK|DASH|CUSTOMER ACCOUNT NUMBER|DOUBLE BACKSLASH
2460|CIRCLED DIGIT |ONE|TWO|THREE|FOUR|FIVE|SIX|SEVEN|EIGHT|NINE
2469|CIRCLED NUMBER |TEN|ELEVEN|TWELVE|THIRTEEN|FOURTEEN|FIFTEEN|SIXTEEN|SEVENTEEN|EIGHTEEN|NINETEEN|TWENTY
2474|PARENTHESIZED DIGIT |ONE|TWO|THREE|FOUR|FIVE|SIX|SEVEN|EIGHT|NINE
247D|PARENTHESIZED NUMBER |TEN|ELEVEN
247F|PARENTHESIZED NUMBER |TWELVE|THIRTEEN|FOURTEEN|FIFTEEN|SIXTEEN|SEVENTEEN|EIGHTEEN|NINETEEN|TWENTY
2488|DIGIT |ONE FULL STOP|TWO FULL STOP|THREE FULL STOP
248B|DIGIT |FOUR FULL STOP|FIVE FULL STOP|SIX FULL STOP|SEVEN FULL STOP|EIGHT FULL STOP|NINE FULL STOP
2491|NUMBER |TEN FULL STOP|ELEVEN FULL STOP|TWELVE FULL STOP|THIRTEEN FULL STOP
2495|NUMBER F|OURTEEN FULL STOP|IFTEEN FULL STOP
2497|NUMBER |SIXTEEN FULL STOP|SEVENTEEN FULL STOP|EIGHTEEN FULL STOP|NINETEEN FULL STOP|TWENTY FULL STOP
249C|PARENTHESIZED LATIN SMALL LETTER |A|B|C|D|E|F|G|H|I|J|K|L|M|N|O|P|Q|R|S|T|U|V|W|X|Y|Z
24B6|CIRCLED LATIN CAPITAL LETTER |A|B|C|D|E|F|G|H|I|J|K|L|M|N|O|P|Q|R|S|T|U|V|W|X|Y|Z
24D0|CIRCLED LATIN SMALL LETTER |A|B|C|D|E|F|G|H|I|J|K|L|M|N|O|P|Q|R|S|T|U|V|W|X|Y|Z
24EA||CIRCLED DIGIT ZERO|NEGATIVE CIRCLED NUMBER ELEVEN
24EC|NEGATIVE CIRCLED NUMBER |TWELVE|THIRTEEN|FOURTEEN|FIFTEEN|SIXTEEN|SEVENTEEN|EIGHTEEN|NINETEEN|TWENTY
24F5|DOUBLE CIRCLED DIGIT |ONE|TWO|THREE|FOUR|FIVE|SIX|SEVEN|EIGHT|NINE
24FE||DOUBLE CIRCLED NUMBER TEN|NEGATIVE CIRCLED DIGIT ZERO
2500|BOX DRAWINGS |LIGHT HORIZONTAL|HEAVY HORIZONTAL
2502|BOX DRAWINGS |LIGHT VERTICAL|HEAVY VERTICAL|LIGHT TRIPLE DASH HORIZONTAL|HEAVY TRIPLE DASH HORIZONTAL
2506|BOX DRAWINGS |LIGHT TRIPLE DASH VERTICAL|HEAVY TRIPLE DASH VERTICAL|LIGHT QUADRUPLE DASH HORIZONTAL
2509|BOX DRAWINGS |HEAVY QUADRUPLE DASH HORIZONTAL|LIGHT QUADRUPLE DASH VERTICAL
250B|BOX DRAWINGS |HEAVY QUADRUPLE DASH VERTICAL|LIGHT DOWN AND RIGHT|DOWN LIGHT AND RIGHT HEAVY
250E|BOX DRAWINGS |DOWN HEAVY AND RIGHT LIGHT|HEAVY DOWN AND RIGHT|LIGHT DOWN AND LEFT
2511|BOX DRAWINGS |DOWN LIGHT AND LEFT HEAVY|DOWN HEAVY AND LEFT LIGHT|HEAVY DOWN AND LEFT
2514|BOX DRAWINGS |LIGHT UP AND RIGHT|UP LIGHT AND RIGHT HEAVY|UP HEAVY AND RIGHT LIGHT|HEAVY UP AND RIGHT
2518|BOX DRAWINGS |LIGHT UP AND LEFT|UP LIGHT AND LEFT HEAVY|UP HEAVY AND LEFT LIGHT|HEAVY UP AND LEFT
251C|BOX DRAWINGS |LIGHT VERTICAL AND RIGHT|VERTICAL LIGHT AND RIGHT HEAVY|UP HEAVY AND RIGHT DOWN LIGHT
251F|BOX DRAWINGS |DOWN HEAVY AND RIGHT UP LIGHT|VERTICAL HEAVY AND RIGHT LIGHT
2521|BOX DRAWINGS |DOWN LIGHT AND RIGHT UP HEAVY|UP LIGHT AND RIGHT DOWN HEAVY
2523|BOX DRAWINGS |HEAVY VERTICAL AND RIGHT|LIGHT VERTICAL AND LEFT|VERTICAL LIGHT AND LEFT HEAVY
2526|BOX DRAWINGS |UP HEAVY AND LEFT DOWN LIGHT|DOWN HEAVY AND LEFT UP LIGHT|VERTICAL HEAVY AND LEFT LIGHT
2529|BOX DRAWINGS |DOWN LIGHT AND LEFT UP HEAVY|UP LIGHT AND LEFT DOWN HEAVY|HEAVY VERTICAL AND LEFT
252C|BOX DRAWINGS |LIGHT DOWN AND HORIZONTAL|LEFT HEAVY AND RIGHT DOWN LIGHT|RIGHT HEAVY AND LEFT DOWN LIGHT
252F|BOX DRAWINGS DOWN |LIGHT AND HORIZONTAL HEAVY|HEAVY AND HORIZONTAL LIGHT
2531|BOX DRAWINGS |RIGHT LIGHT AND LEFT DOWN HEAVY|LEFT LIGHT AND RIGHT DOWN HEAVY|HEAVY DOWN AND HORIZONTAL
2534|BOX DRAWINGS |LIGHT UP AND HORIZONTAL|LEFT HEAVY AND RIGHT UP LIGHT|RIGHT HEAVY AND LEFT UP LIGHT
2537|BOX DRAWINGS |UP LIGHT AND HORIZONTAL HEAVY|UP HEAVY AND HORIZONTAL LIGHT|RIGHT LIGHT AND LEFT UP HEAVY
253A|BOX DRAWINGS |LEFT LIGHT AND RIGHT UP HEAVY|HEAVY UP AND HORIZONTAL|LIGHT VERTICAL AND HORIZONTAL
253D|BOX DRAWINGS |LEFT HEAVY AND RIGHT VERTICAL LIGHT|RIGHT HEAVY AND LEFT VERTICAL LIGHT
253F|BOX DRAWINGS |VERTICAL LIGHT AND HORIZONTAL HEAVY|UP HEAVY AND DOWN HORIZONTAL LIGHT
2541|BOX DRAWINGS |DOWN HEAVY AND UP HORIZONTAL LIGHT|VERTICAL HEAVY AND HORIZONTAL LIGHT
2543|BOX DRAWINGS |LEFT UP HEAVY AND RIGHT DOWN LIGHT|RIGHT UP HEAVY AND LEFT DOWN LIGHT
2545|BOX DRAWINGS |LEFT DOWN HEAVY AND RIGHT UP LIGHT|RIGHT DOWN HEAVY AND LEFT UP LIGHT
2547|BOX DRAWINGS |DOWN LIGHT AND UP HORIZONTAL HEAVY|UP LIGHT AND DOWN HORIZONTAL HEAVY
2549|BOX DRAWINGS |RIGHT LIGHT AND LEFT VERTICAL HEAVY|LEFT LIGHT AND RIGHT VERTICAL HEAVY
254B|BOX DRAWINGS |HEAVY VERTICAL AND HORIZONTAL|LIGHT DOUBLE DASH HORIZONTAL|HEAVY DOUBLE DASH HORIZONTAL
254E|BOX DRAWINGS |LIGHT DOUBLE DASH VERTICAL|HEAVY DOUBLE DASH VERTICAL|DOUBLE HORIZONTAL
2551|BOX DRAWINGS DO|UBLE VERTICAL|WN SINGLE AND RIGHT DOUBLE|WN DOUBLE AND RIGHT SINGLE|UBLE DOWN AND RIGHT
2555|BOX DRAWINGS DO|WN SINGLE AND LEFT DOUBLE|WN DOUBLE AND LEFT SINGLE|UBLE DOWN AND LEFT
2558|BOX DRAWINGS |UP SINGLE AND RIGHT DOUBLE|UP DOUBLE AND RIGHT SINGLE|DOUBLE UP AND RIGHT
255B|BOX DRAWINGS |UP SINGLE AND LEFT DOUBLE|UP DOUBLE AND LEFT SINGLE|DOUBLE UP AND LEFT
255E|BOX DRAWINGS VERTICAL |SINGLE AND RIGHT DOUBLE|DOUBLE AND RIGHT SINGLE
2560|BOX DRAWINGS |DOUBLE VERTICAL AND RIGHT|VERTICAL SINGLE AND LEFT DOUBLE|VERTICAL DOUBLE AND LEFT SINGLE
2563|BOX DRAWINGS DO|UBLE VERTICAL AND LEFT|WN SINGLE AND HORIZONTAL DOUBLE
2565|BOX DRAWINGS DO|WN DOUBLE AND HORIZONTAL SINGLE|UBLE DOWN AND HORIZONTAL
2567|BOX DRAWINGS |UP SINGLE AND HORIZONTAL DOUBLE|UP DOUBLE AND HORIZONTAL SINGLE|DOUBLE UP AND HORIZONTAL
256A|BOX DRAWINGS VERTICAL |SINGLE AND HORIZONTAL DOUBLE|DOUBLE AND HORIZONTAL SINGLE
256C||BOX DRAWINGS DOUBLE VERTICAL AND HORIZONTAL
256D|BOX DRAWINGS LIGHT ARC |DOWN AND RIGHT|DOWN AND LEFT|UP AND LEFT|UP AND RIGHT
2571|BOX DRAWINGS LIGHT DIAGONAL |UPPER RIGHT TO LOWER LEFT|UPPER LEFT TO LOWER RIGHT|CROSS
2574|BOX DRAWINGS LIGHT |LEFT|UP|RIGHT|DOWN
2578|BOX DRAWINGS HEAVY |LEFT|UP|RIGHT|DOWN
257C|BOX DRAWINGS LIGHT |LEFT AND HEAVY RIGHT|UP AND HEAVY DOWN
257E|BOX DRAWINGS HEAVY |LEFT AND LIGHT RIGHT|UP AND LIGHT DOWN
2580||UPPER HALF BLOCK
2581|LOWER ONE |EIGHTH BLOCK|QUARTER BLOCK
2583|LOWER |THREE EIGHTHS BLOCK|HALF BLOCK|FIVE EIGHTHS BLOCK|THREE QUARTERS BLOCK|SEVEN EIGHTHS BLOCK
2588||FULL BLOCK
2589|LEFT |SEVEN EIGHTHS BLOCK|THREE QUARTERS BLOCK|FIVE EIGHTHS BLOCK|HALF BLOCK|THREE EIGHTHS BLOCK
258E|LEFT ONE |QUARTER BLOCK|EIGHTH BLOCK
2590||RIGHT HALF BLOCK|LIGHT SHADE
2592||MEDIUM SHADE|DARK SHADE|UPPER ONE EIGHTH BLOCK|RIGHT ONE EIGHTH BLOCK
2596|QUADRANT LOWER |LEFT|RIGHT
2598|QUADRANT UPPER LEFT|| AND LOWER LEFT AND LOWER RIGHT| AND LOWER RIGHT
259B|QUADRANT UPPER LEFT AND UPPER RIGHT AND LOWER |LEFT|RIGHT
259D|QUADRANT UPPER RIGHT|| AND LOWER LEFT| AND LOWER LEFT AND LOWER RIGHT
25A0||BLACK SQUARE
25A1|WHITE SQUARE|| WITH ROUNDED CORNERS| CONTAINING BLACK SMALL SQUARE
25A4|SQUARE WITH |HORIZONTAL FILL|VERTICAL FILL|ORTHOGONAL CROSSHATCH FILL
25A7|SQUARE WITH |UPPER LEFT TO LOWER RIGHT FILL|UPPER RIGHT TO LOWER LEFT FILL|DIAGONAL CROSSHATCH FILL
25AA||BLACK SMALL SQUARE|WHITE SMALL SQUARE|BLACK RECTANGLE|WHITE RECTANGLE
25AE||BLACK VERTICAL RECTANGLE|WHITE VERTICAL RECTANGLE|BLACK PARALLELOGRAM|WHITE PARALLELOGRAM
25B2||BLACK UP-POINTING TRIANGLE|WHITE UP-POINTING TRIANGLE|BLACK UP-POINTING SMALL TRIANGLE
25B5||WHITE UP-POINTING SMALL TRIANGLE|BLACK RIGHT-POINTING TRIANGLE|WHITE RIGHT-POINTING TRIANGLE
25B8||BLACK RIGHT-POINTING SMALL TRIANGLE|WHITE RIGHT-POINTING SMALL TRIANGLE|BLACK RIGHT-POINTING POINTER
25BB||WHITE RIGHT-POINTING POINTER|BLACK DOWN-POINTING TRIANGLE|WHITE DOWN-POINTING TRIANGLE
25BE||BLACK DOWN-POINTING SMALL TRIANGLE|WHITE DOWN-POINTING SMALL TRIANGLE|BLACK LEFT-POINTING TRIANGLE
25C1||WHITE LEFT-POINTING TRIANGLE|BLACK LEFT-POINTING SMALL TRIANGLE|WHITE LEFT-POINTING SMALL TRIANGLE
25C4||BLACK LEFT-POINTING POINTER|WHITE LEFT-POINTING POINTER|BLACK DIAMOND
25C7|WHITE DIAMOND|| CONTAINING BLACK SMALL DIAMOND
25C9||FISHEYE|LOZENGE|WHITE CIRCLE
25CC||DOTTED CIRCLE|CIRCLE WITH VERTICAL FILL|BULLSEYE|BLACK CIRCLE
25D0|CIRCLE WITH |LEFT HALF BLACK|RIGHT HALF BLACK|LOWER HALF BLACK
25D3|CIRCLE WITH |UPPER HALF BLACK|UPPER RIGHT QUADRANT BLACK|ALL BUT UPPER LEFT QUADRANT BLACK
25D6||LEFT HALF BLACK CIRCLE|RIGHT HALF BLACK CIRCLE
25D8|INVERSE |BULLET|WHITE CIRCLE
25DA||UPPER HALF INVERSE WHITE CIRCLE|LOWER HALF INVERSE WHITE CIRCLE
25DC|UPPER |LEFT QUADRANT CIRCULAR ARC|RIGHT QUADRANT CIRCULAR ARC
25DE||LOWER RIGHT QUADRANT CIRCULAR ARC|LOWER LEFT QUADRANT CIRCULAR ARC|UPPER HALF CIRCLE|LOWER HALF CIRCLE
25E2|BLACK |LOWER RIGHT TRIANGLE|LOWER LEFT TRIANGLE|UPPER LEFT TRIANGLE|UPPER RIGHT TRIANGLE
25E6||WHITE BULLET|SQUARE WITH LEFT HALF BLACK
25E8|SQUARE WITH |RIGHT HALF BLACK|UPPER LEFT DIAGONAL HALF BLACK|LOWER RIGHT DIAGONAL HALF BLACK
25EB|WHITE |SQUARE WITH VERTICAL BISECTING LINE|UP-POINTING TRIANGLE WITH DOT
25ED|UP-POINTING TRIANGLE WITH |LEFT HALF BLACK|RIGHT HALF BLACK
25EF||LARGE CIRCLE
25F0|WHITE SQUARE WITH |UPPER LEFT QUADRANT|LOWER LEFT QUADRANT|LOWER RIGHT QUADRANT|UPPER RIGHT QUADRANT
25F4|WHITE CIRCLE WITH |UPPER LEFT QUADRANT|LOWER LEFT QUADRANT|LOWER RIGHT QUADRANT|UPPER RIGHT QUADRANT
25F8||UPPER LEFT TRIANGLE|UPPER RIGHT TRIANGLE|LOWER LEFT TRIANGLE|WHITE MEDIUM SQUARE
25FC||BLACK MEDIUM SQUARE|WHITE MEDIUM SMALL SQUARE|BLACK MEDIUM SMALL SQUARE|LOWER RIGHT TRIANGLE
2600||BLACK SUN WITH RAYS|CLOUD|UMBRELLA|SNOWMAN
2604||COMET|BLACK STAR|WHITE STAR|LIGHTNING
2608||THUNDERSTORM|SUN|ASCENDING NODE|DESCENDING NODE
260C||CONJUNCTION|OPPOSITION|BLACK TELEPHONE|WHITE TELEPHONE
2610|BALLOT BOX|| WITH CHECK| WITH X
2613||SALTIRE|UMBRELLA WITH RAIN DROPS|HOT BEVERAGE
2616||WHITE SHOGI PIECE|BLACK SHOGI PIECE|SHAMROCK|REVERSED ROTATED FLORAL HEART BULLET
261A|BLACK |LEFT POINTING INDEX|RIGHT POINTING INDEX
261C|WHITE |LEFT POINTING INDEX|UP POINTING INDEX|RIGHT POINTING INDEX|DOWN POINTING INDEX
2620||SKULL AND CROSSBONES|CAUTION SIGN|RADIOACTIVE SIGN|BIOHAZARD SIGN
2624||CADUCEUS|ANKH|ORTHODOX CROSS|CHI RHO
2628|CROSS OF |LORRAINE|JERUSALEM
262A||STAR AND CRESCENT|FARSI SYMBOL
262C||ADI SHAKTI|HAMMER AND SICKLE|PEACE SYMBOL|YIN YANG
2630|TRIGRAM FOR |HEAVEN|LAKE|FIRE|THUNDER|WIND|WATER|MOUNTAIN|EARTH
2638||WHEEL OF DHARMA|WHITE FROWNING FACE|WHITE SMILING FACE|BLACK SMILING FACE
263C||WHITE SUN WITH RAYS|FIRST QUARTER MOON|LAST QUARTER MOON|MERCURY
2640||FEMALE SIGN|EARTH|MALE SIGN|JUPITER
2644||SATURN|URANUS|NEPTUNE|PLUTO
2648||ARIES|TAURUS|GEMINI|CANCER
264C||LEO|VIRGO|LIBRA|SCORPIUS
2650||SAGITTARIUS|CAPRICORN|AQUARIUS|PISCES
2654|WHITE CHESS |KING|QUEEN|ROOK|BISHOP|KNIGHT|PAWN
265A|BLACK CHESS |KING|QUEEN|ROOK|BISHOP|KNIGHT|PAWN
2660||BLACK SPADE SUIT|WHITE HEART SUIT|WHITE DIAMOND SUIT
2663||BLACK CLUB SUIT|WHITE SPADE SUIT|BLACK HEART SUIT|BLACK DIAMOND SUIT
2667||WHITE CLUB SUIT|HOT SPRINGS|QUARTER NOTE|EIGHTH NOTE
266B|BEAMED |EIGHTH NOTES|SIXTEENTH NOTES
266D|MUSIC |FLAT SIGN|NATURAL SIGN|SHARP SIGN
2670||WEST SYRIAC CROSS|EAST SYRIAC CROSS|UNIVERSAL RECYCLING SYMBOL
2673|RECYCLING SYMBOL FOR TYPE-|1 PLASTICS|2 PLASTICS|3 PLASTICS|4 PLASTICS|5 PLASTICS|6 PLASTICS|7 PLASTICS
267A||RECYCLING SYMBOL FOR GENERIC MATERIALS|BLACK UNIVERSAL RECYCLING SYMBOL
267C||RECYCLED PAPER SYMBOL|PARTIALLY-RECYCLED PAPER SYMBOL|PERMANENT PAPER SIGN|WHEELCHAIR SYMBOL
2680|DIE FACE-|1|2|3|4|5|6
2686|WHITE CIRCLE WITH |DOT RIGHT|TWO DOTS
2688|BLACK CIRCLE WITH |WHITE DOT RIGHT|TWO WHITE DOTS
268A|MONOGRAM FOR Y|ANG|IN
268C|DIGRAM FOR |GREATER YANG|LESSER YIN|LESSER YANG|GREATER YIN
2690||WHITE FLAG|BLACK FLAG
2692||HAMMER AND PICK|ANCHOR|CROSSED SWORDS|STAFF OF AESCULAPIUS
2696||SCALES|ALEMBIC|FLOWER|GEAR
269A||STAFF OF HERMES|ATOM SYMBOL|FLEUR-DE-LIS|OUTLINED WHITE STAR
269E|THREE LINES CONVERGING |RIGHT|LEFT
26A0||WARNING SIGN|HIGH VOLTAGE SIGN
26A2|DOUBLED |FEMALE SIGN|MALE SIGN
26A4||INTERLOCKED FEMALE AND MALE SIGN|MALE AND FEMALE SIGN
26A6|MALE WITH STROKE |SIGN|AND MALE AND FEMALE SIGN
26A8||VERTICAL MALE WITH STROKE SIGN|HORIZONTAL MALE WITH STROKE SIGN
26AA|MEDIUM |WHITE CIRCLE|BLACK CIRCLE|SMALL WHITE CIRCLE
26AD||MARRIAGE SYMBOL|DIVORCE SYMBOL|UNMARRIED PARTNERSHIP SYMBOL
26B0||COFFIN|FUNERAL URN|NEUTER|CERES
26B4||PALLAS|JUNO|VESTA|CHIRON
26B8||BLACK MOON LILITH|SEXTILE|SEMISEXTILE|QUINCUNX
26BC||SESQUIQUADRATE|SOCCER BALL|BASEBALL|SQUARED KEY
26C0|WHITE DRAUGHTS |MAN|KING
26C2|BLACK DRAUGHTS |MAN|KING
26C4||SNOWMAN WITHOUT SNOW|SUN BEHIND CLOUD|RAIN|BLACK SNOWMAN
26C8|T|HUNDER CLOUD AND RAIN|URNED WHITE SHOGI PIECE|URNED BLACK SHOGI PIECE
26CB||WHITE DIAMOND IN SQUARE|CROSSING LANES
26CD||DISABLED CAR|OPHIUCHUS|PICK|CAR SLIDING
26D1||HELMET WITH WHITE CROSS|CIRCLED CROSSING LANES|CHAINS|NO ENTRY
26D5||ALTERNATE ONE-WAY LEFT WAY TRAFFIC|BLACK TWO-WAY LEFT WAY TRAFFIC|WHITE TWO-WAY LEFT WAY TRAFFIC
26D8||BLACK LEFT LANE MERGE|WHITE LEFT LANE MERGE|DRIVE SLOW SIGN|HEAVY WHITE DOWN-POINTING TRIANGLE
26DC||LEFT CLOSED ENTRY|SQUARED SALTIRE|FALLING DIAGONAL IN WHITE CIRCLE IN BLACK SQUARE|BLACK TRUCK
26E0|RESTRICTED LEFT ENTRY-|1|2
26E2||ASTRONOMICAL SYMBOL FOR URANUS
26E3||HEAVY CIRCLE WITH STROKE AND TWO DOTS ABOVE|PENTAGRAM|RIGHT-HANDED INTERLACED PENTAGRAM
26E6||LEFT-HANDED INTERLACED PENTAGRAM|INVERTED PENTAGRAM|BLACK CROSS ON SHIELD
26E9||SHINTO SHRINE|CHURCH|CASTLE|HISTORIC SITE
26ED|GEAR WITH|OUT HUB| HANDLES
26EF||MAP SYMBOL FOR LIGHTHOUSE|MOUNTAIN|UMBRELLA ON GROUND
26F2|F|OUNTAIN|LAG IN HOLE|ERRY
26F5||SAILBOAT|SQUARE FOUR CORNERS|SKIER|ICE SKATE
26F9||PERSON WITH BALL|TENT|JAPANESE BANK SYMBOL|HEADSTONE GRAVEYARD SYMBOL
26FD||FUEL PUMP|CUP ON BLACK SQUARE|WHITE FLAG WITH HORIZONTAL MIDDLE BLACK STRIPE
2700||BLACK SAFETY SCISSORS|UPPER BLADE SCISSORS|BLACK SCISSORS|LOWER BLADE SCISSORS
2704|WHITE |SCISSORS|HEAVY CHECK MARK
2706||TELEPHONE LOCATION SIGN|TAPE DRIVE|AIRPLANE|ENVELOPE
270A|RAISED |FIST|HAND
270C||VICTORY HAND|WRITING HAND|LOWER RIGHT PENCIL|PENCIL
2710||UPPER RIGHT PENCIL|WHITE NIB|BLACK NIB|CHECK MARK
2714||HEAVY CHECK MARK|MULTIPLICATION X|HEAVY MULTIPLICATION X|BALLOT X
2718||HEAVY BALLOT X|OUTLINED GREEK CROSS|HEAVY GREEK CROSS|OPEN CENTRE CROSS
271C||HEAVY OPEN CENTRE CROSS|LATIN CROSS|SHADOWED WHITE LATIN CROSS|OUTLINED LATIN CROSS
2720||MALTESE CROSS|STAR OF DAVID|FOUR TEARDROP-SPOKED ASTERISK|FOUR BALLOON-SPOKED ASTERISK
2724||HEAVY FOUR BALLOON-SPOKED ASTERISK|FOUR CLUB-SPOKED ASTERISK|BLACK FOUR POINTED STAR
2727||WHITE FOUR POINTED STAR|SPARKLES|STRESS OUTLINED WHITE STAR|CIRCLED WHITE STAR
272B||OPEN CENTRE BLACK STAR|BLACK CENTRE WHITE STAR|OUTLINED BLACK STAR|HEAVY OUTLINED BLACK STAR
272F||PINWHEEL STAR|SHADOWED WHITE STAR|HEAVY ASTERISK|OPEN CENTRE ASTERISK
2733|EIGHT |SPOKED ASTERISK|POINTED BLACK STAR|POINTED PINWHEEL STAR
2736||SIX POINTED BLACK STAR|EIGHT POINTED RECTILINEAR BLACK STAR
2738||HEAVY EIGHT POINTED RECTILINEAR BLACK STAR|TWELVE POINTED BLACK STAR
273A||SIXTEEN POINTED ASTERISK|TEARDROP-SPOKED ASTERISK|OPEN CENTRE TEARDROP-SPOKED ASTERISK
273D||HEAVY TEARDROP-SPOKED ASTERISK|SIX PETALLED BLACK AND WHITE FLORETTE|BLACK FLORETTE
2740||WHITE FLORETTE|EIGHT PETALLED OUTLINED BLACK FLORETTE|CIRCLED OPEN CENTRE EIGHT POINTED STAR
2743||HEAVY TEARDROP-SPOKED PINWHEEL ASTERISK|SNOWFLAKE|TIGHT TRIFOLIATE SNOWFLAKE
2746||HEAVY CHEVRON SNOWFLAKE|SPARKLE|HEAVY SPARKLE|BALLOON-SPOKED ASTERISK
274A||EIGHT TEARDROP-SPOKED PROPELLER ASTERISK|HEAVY EIGHT TEARDROP-SPOKED PROPELLER ASTERISK
274C||CROSS MARK|SHADOWED WHITE CIRCLE|NEGATIVE SQUARED CROSS MARK
274F||LOWER RIGHT DROP-SHADOWED WHITE SQUARE|UPPER RIGHT DROP-SHADOWED WHITE SQUARE
2751||LOWER RIGHT SHADOWED WHITE SQUARE|UPPER RIGHT SHADOWED WHITE SQUARE|BLACK QUESTION MARK ORNAMENT
2754|WHITE |QUESTION MARK ORNAMENT|EXCLAMATION MARK ORNAMENT
2756||BLACK DIAMOND MINUS WHITE X|HEAVY EXCLAMATION MARK SYMBOL|LIGHT VERTICAL BAR|MEDIUM VERTICAL BAR
275A|HEAVY |VERTICAL BAR|SINGLE TURNED COMMA QUOTATION MARK ORNAMENT|SINGLE COMMA QUOTATION MARK ORNAMENT
275D|HEAVY DOUBLE |TURNED COMMA QUOTATION MARK ORNAMENT|COMMA QUOTATION MARK ORNAMENT
275F|HEAVY LOW |SINGLE COMMA QUOTATION MARK ORNAMENT|DOUBLE COMMA QUOTATION MARK ORNAMENT
2761||CURVED STEM PARAGRAPH SIGN ORNAMENT
2762|HEAVY |EXCLAMATION MARK ORNAMENT|HEART EXCLAMATION MARK ORNAMENT|BLACK HEART
2765||ROTATED HEAVY BLACK HEART BULLET|FLORAL HEART|ROTATED FLORAL HEART BULLET
2768|MEDIUM |LEFT PARENTHESIS ORNAMENT|RIGHT PARENTHESIS ORNAMENT
276A|MEDIUM FLATTENED |LEFT PARENTHESIS ORNAMENT|RIGHT PARENTHESIS ORNAMENT
276C|MEDIUM |LEFT-POINTING ANGLE BRACKET ORNAMENT|RIGHT-POINTING ANGLE BRACKET ORNAMENT
276E|HEAVY |LEFT-POINTING ANGLE QUOTATION MARK ORNAMENT|RIGHT-POINTING ANGLE QUOTATION MARK ORNAMENT
2770|HEAVY |LEFT-POINTING ANGLE BRACKET ORNAMENT|RIGHT-POINTING ANGLE BRACKET ORNAMENT
2772|LIGHT |LEFT TORTOISE SHELL BRACKET ORNAMENT|RIGHT TORTOISE SHELL BRACKET ORNAMENT
2774|MEDIUM |LEFT CURLY BRACKET ORNAMENT|RIGHT CURLY BRACKET ORNAMENT
2776|DINGBAT NEGATIVE CIRCLED DIGIT |ONE|TWO|THREE|FOUR|FIVE|SIX|SEVEN|EIGHT|NINE
277F||DINGBAT NEGATIVE CIRCLED NUMBER TEN
2780|DINGBAT CIRCLED SANS-SERIF DIGIT |ONE|TWO|THREE|FOUR|FIVE|SIX|SEVEN|EIGHT|NINE
2789||DINGBAT CIRCLED SANS-SERIF NUMBER TEN
278A|DINGBAT NEGATIVE CIRCLED SANS-SERIF DIGIT |ONE|TWO|THREE|FOUR|FIVE|SIX|SEVEN|EIGHT|NINE
2793||DINGBAT NEGATIVE CIRCLED SANS-SERIF NUMBER TEN|HEAVY WIDE-HEADED RIGHTWARDS ARROW
2795|HEAVY |PLUS SIGN|MINUS SIGN|DIVISION SIGN|SOUTH EAST ARROW|RIGHTWARDS ARROW|NORTH EAST ARROW
279B||DRAFTING POINT RIGHTWARDS ARROW|HEAVY ROUND-TIPPED RIGHTWARDS ARROW|TRIANGLE-HEADED RIGHTWARDS ARROW
279E||HEAVY TRIANGLE-HEADED RIGHTWARDS ARROW|DASHED TRIANGLE-HEADED RIGHTWARDS ARROW
27A0||HEAVY DASHED TRIANGLE-HEADED RIGHTWARDS ARROW|BLACK RIGHTWARDS ARROW
27A2|THREE-D |TOP-LIGHTED RIGHTWARDS ARROWHEAD|BOTTOM-LIGHTED RIGHTWARDS ARROWHEAD
27A4||BLACK RIGHTWARDS ARROWHEAD
27A5|HEAVY BLACK CURVED |DOWNWARDS AND RIGHTWARDS ARROW|UPWARDS AND RIGHTWARDS ARROW
27A7||SQUAT BLACK RIGHTWARDS ARROW|HEAVY CONCAVE-POINTED BLACK RIGHTWARDS ARROW
27A9||RIGHT-SHADED WHITE RIGHTWARDS ARROW|LEFT-SHADED WHITE RIGHTWARDS ARROW
27AB||BACK-TILTED SHADOWED WHITE RIGHTWARDS ARROW|FRONT-TILTED SHADOWED WHITE RIGHTWARDS ARROW
27AD|HEAVY |LOWER RIGHT-SHADOWED WHITE RIGHTWARDS ARROW|UPPER RIGHT-SHADOWED WHITE RIGHTWARDS ARROW
27AF||NOTCHED LOWER RIGHT-SHADOWED WHITE RIGHTWARDS ARROW
27B0||CURLY LOOP|NOTCHED UPPER RIGHT-SHADOWED WHITE RIGHTWARDS ARROW
27B2||CIRCLED HEAVY WHITE RIGHTWARDS ARROW|WHITE-FEATHERED RIGHTWARDS ARROW
27B4|BLACK-FEATHERED |SOUTH EAST ARROW|RIGHTWARDS ARROW|NORTH EAST ARROW
27B7|HEAVY BLACK-FEATHERED |SOUTH EAST ARROW|RIGHTWARDS ARROW|NORTH EAST ARROW
27BA||TEARDROP-BARBED RIGHTWARDS ARROW|HEAVY TEARDROP-SHANKED RIGHTWARDS ARROW|WEDGE-TAILED RIGHTWARDS ARROW
27BD||HEAVY WEDGE-TAILED RIGHTWARDS ARROW|OPEN-OUTLINED RIGHTWARDS ARROW|DOUBLE CURLY LOOP
27C0||THREE DIMENSIONAL ANGLE|WHITE TRIANGLE CONTAINING SMALL WHITE TRIANGLE|PERPENDICULAR|OPEN SUBSET
27C4||OPEN SUPERSET|LEFT S-SHAPED BAG DELIMITER|RIGHT S-SHAPED BAG DELIMITER|OR WITH DOT INSIDE
27C8||REVERSE SOLIDUS PRECEDING SUBSET|SUPERSET PRECEDING SOLIDUS|VERTICAL BAR WITH HORIZONTAL STROKE
27CB||MATHEMATICAL RISING DIAGONAL|LONG DIVISION|MATHEMATICAL FALLING DIAGONAL
27CE|SQUARED LOGICAL |AND|OR
27D0||WHITE DIAMOND WITH CENTRED DOT|AND WITH DOT|ELEMENT OF OPENING UPWARDS|LOWER RIGHT CORNER WITH DOT
27D4||UPPER LEFT CORNER WITH DOT|LEFT OUTER JOIN|RIGHT OUTER JOIN|FULL OUTER JOIN
27D8|LARGE |UP TACK|DOWN TACK
27DA|LEFT |AND RIGHT DOUBLE TURNSTILE|AND RIGHT TACK|MULTIMAP
27DD||LONG RIGHT TACK|LONG LEFT TACK|UP TACK WITH CIRCLE ABOVE|LOZENGE DIVIDED BY HORIZONTAL RULE
27E1|WHITE CONCAVE-SIDED DIAMOND|| WITH LEFTWARDS TICK| WITH RIGHTWARDS TICK
27E4|WHITE SQUARE WITH |LEFTWARDS TICK|RIGHTWARDS TICK
27E6||MATHEMATICAL LEFT WHITE SQUARE BRACKET
27E7|MATHEMATICAL |RIGHT WHITE SQUARE BRACKET|LEFT ANGLE BRACKET|RIGHT ANGLE BRACKET
27EA|MATHEMATICAL |LEFT DOUBLE ANGLE BRACKET|RIGHT DOUBLE ANGLE BRACKET|LEFT WHITE TORTOISE SHELL BRACKET
27ED|MATHEMATICAL |RIGHT WHITE TORTOISE SHELL BRACKET|LEFT FLATTENED PARENTHESIS|RIGHT FLATTENED PARENTHESIS
27F0||UPWARDS QUADRUPLE ARROW|DOWNWARDS QUADRUPLE ARROW
27F2||ANTICLOCKWISE GAPPED CIRCLE ARROW|CLOCKWISE GAPPED CIRCLE ARROW|RIGHT ARROW WITH CIRCLED PLUS
27F5|LONG |LEFTWARDS ARROW|RIGHTWARDS ARROW|LEFT RIGHT ARROW|LEFTWARDS DOUBLE ARROW|RIGHTWARDS DOUBLE ARROW
27FA|LONG LEFT| RIGHT DOUBLE ARROW|WARDS ARROW FROM BAR
27FC|LONG |RIGHTWARDS ARROW FROM BAR|LEFTWARDS DOUBLE ARROW FROM BAR
27FE|LONG RIGHTWARDS |DOUBLE ARROW FROM BAR|SQUIGGLE ARROW
2800||BRAILLE PATTERN BLANK
2801|BRAILLE PATTERN DOTS-|1|2|12|3|13|23|123|4|14|24|124|34|134|234|1234|5|15|25|125|35|135|235|1235|45|145
281A|BRAILLE PATTERN DOTS-|245|1245|345|1345|2345|12345|6|16|26|126|36|136|236|1236|46|146|246|1246|346|1346
282E|BRAILLE PATTERN DOTS-|2346|12346|56|156|256|1256|356|1356|2356|12356|456|1456|2456|12456|3456|13456
283E|BRAILLE PATTERN DOTS-|23456|123456|7|17|27|127|37|137|237|1237|47|147|247|1247|347|1347|2347|12347
2850|BRAILLE PATTERN DOTS-|57|157|257|1257|357|1357|2357|12357|457|1457|2457|12457|3457|13457|23457|123457
2860|BRAILLE PATTERN DOTS-|67|167|267|1267|367|1367|2367|12367|467|1467|2467|12467|3467|13467|23467|123467
2870|BRAILLE PATTERN DOTS-|567|1567|2567|12567|3567|13567|23567|123567|4567|14567|24567|124567|34567|134567
287E|BRAILLE PATTERN DOTS-|234567|1234567|8|18|28|128|38|138|238|1238|48|148|248|1248|348|1348|2348|12348
2890|BRAILLE PATTERN DOTS-|58|158|258|1258|358|1358|2358|12358|458|1458|2458|12458|3458|13458|23458|123458
28A0|BRAILLE PATTERN DOTS-|68|168|268|1268|368|1368|2368|12368|468|1468|2468|12468|3468|13468|23468|123468
28B0|BRAILLE PATTERN DOTS-|568|1568|2568|12568|3568|13568|23568|123568|4568|14568|24568|124568|34568|134568
28BE|BRAILLE PATTERN DOTS-|234568|1234568|78|178|278|1278|378|1378|2378|12378|478|1478|2478|12478|3478
28CD|BRAILLE PATTERN DOTS-|13478|23478|123478|578|1578|2578|12578|3578|13578|23578|123578|4578|14578|24578
28DB|BRAILLE PATTERN DOTS-|124578|34578|134578|234578|1234578|678|1678|2678|12678|3678|13678|23678|123678
28E8|BRAILLE PATTERN DOTS-|4678|14678|24678|124678|34678|134678|234678|1234678|5678|15678|25678|125678|35678
28F5|BRAILLE PATTERN DOTS-|135678|235678|1235678|45678|145678|245678|1245678|345678|1345678|2345678|12345678
2900|RIGHTWARDS TWO-HEADED ARROW WITH |VERTICAL STROKE|DOUBLE VERTICAL STROKE
2902||LEFTWARDS DOUBLE ARROW WITH VERTICAL STROKE
2903||RIGHTWARDS DOUBLE ARROW WITH VERTICAL STROKE|LEFT RIGHT DOUBLE ARROW WITH VERTICAL STROKE
2905||RIGHTWARDS TWO-HEADED ARROW FROM BAR|LEFTWARDS DOUBLE ARROW FROM BAR
2907||RIGHTWARDS DOUBLE ARROW FROM BAR|DOWNWARDS ARROW WITH HORIZONTAL STROKE
2909|UPWARDS |ARROW WITH HORIZONTAL STROKE|TRIPLE ARROW
290B||DOWNWARDS TRIPLE ARROW
290C||LEFTWARDS DOUBLE DASH ARROW|RIGHTWARDS DOUBLE DASH ARROW|LEFTWARDS TRIPLE DASH ARROW
290F|RIGHTWARDS |TRIPLE DASH ARROW|TWO-HEADED TRIPLE DASH ARROW|ARROW WITH DOTTED STEM
2912||UPWARDS ARROW TO BAR|DOWNWARDS ARROW TO BAR
2914|RIGHTWARDS ARROW WITH TAIL WITH |VERTICAL STROKE|DOUBLE VERTICAL STROKE
2916|RIGHTWARDS TWO-HEADED ARROW WITH TAIL|| WITH VERTICAL STROKE| WITH DOUBLE VERTICAL STROKE
2919||LEFTWARDS ARROW-TAIL|RIGHTWARDS ARROW-TAIL|LEFTWARDS DOUBLE ARROW-TAIL
291C||RIGHTWARDS DOUBLE ARROW-TAIL|LEFTWARDS ARROW TO BLACK DIAMOND|RIGHTWARDS ARROW TO BLACK DIAMOND
291F||LEFTWARDS ARROW FROM BAR TO BLACK DIAMOND|RIGHTWARDS ARROW FROM BAR TO BLACK DIAMOND
2921|NORTH |WEST AND SOUTH EAST ARROW|EAST AND SOUTH WEST ARROW|WEST ARROW WITH HOOK|EAST ARROW WITH HOOK
2925|SOUTH |EAST ARROW WITH HOOK|WEST ARROW WITH HOOK
2927|NORTH |WEST ARROW AND NORTH EAST ARROW|EAST ARROW AND SOUTH EAST ARROW
2929|SOUTH |EAST ARROW AND SOUTH WEST ARROW|WEST ARROW AND NORTH WEST ARROW
292B||RISING DIAGONAL CROSSING FALLING DIAGONAL|FALLING DIAGONAL CROSSING RISING DIAGONAL
292D||SOUTH EAST ARROW CROSSING NORTH EAST ARROW|NORTH EAST ARROW CROSSING SOUTH EAST ARROW
292F||FALLING DIAGONAL CROSSING NORTH EAST ARROW|RISING DIAGONAL CROSSING SOUTH EAST ARROW
2931|NORTH |EAST ARROW CROSSING NORTH WEST ARROW|WEST ARROW CROSSING NORTH EAST ARROW
2933||WAVE ARROW POINTING DIRECTLY RIGHT
2934|ARROW POINTING RIGHTWARDS THEN CURVING |UPWARDS|DOWNWARDS
2936|ARROW POINTING DOWNWARDS THEN CURVING |LEFTWARDS|RIGHTWARDS
2938||RIGHT-SIDE ARC CLOCKWISE ARROW
2939||LEFT-SIDE ARC ANTICLOCKWISE ARROW|TOP ARC ANTICLOCKWISE ARROW|BOTTOM ARC ANTICLOCKWISE ARROW
293C|TOP ARC |CLOCKWISE ARROW WITH MINUS|ANTICLOCKWISE ARROW WITH PLUS
293E|LOWER |RIGHT SEMICIRCULAR CLOCKWISE ARROW|LEFT SEMICIRCULAR ANTICLOCKWISE ARROW
2940||ANTICLOCKWISE CLOSED CIRCLE ARROW
2941||CLOCKWISE CLOSED CIRCLE ARROW|RIGHTWARDS ARROW ABOVE SHORT LEFTWARDS ARROW
2943||LEFTWARDS ARROW ABOVE SHORT RIGHTWARDS ARROW|SHORT RIGHTWARDS ARROW ABOVE LEFTWARDS ARROW
2945||RIGHTWARDS ARROW WITH PLUS BELOW|LEFTWARDS ARROW WITH PLUS BELOW|RIGHTWARDS ARROW THROUGH X
2948||LEFT RIGHT ARROW THROUGH SMALL CIRCLE|UPWARDS TWO-HEADED ARROW FROM SMALL CIRCLE
294A|LEFT BARB |UP RIGHT BARB DOWN HARPOON|DOWN RIGHT BARB UP HARPOON
294C|UP BARB |RIGHT DOWN BARB LEFT HARPOON|LEFT DOWN BARB RIGHT HARPOON
294E||LEFT BARB UP RIGHT BARB UP HARPOON|UP BARB RIGHT DOWN BARB RIGHT HARPOON
2950||LEFT BARB DOWN RIGHT BARB DOWN HARPOON|UP BARB LEFT DOWN BARB LEFT HARPOON
2952||LEFTWARDS HARPOON WITH BARB UP TO BAR|RIGHTWARDS HARPOON WITH BARB UP TO BAR
2954||UPWARDS HARPOON WITH BARB RIGHT TO BAR|DOWNWARDS HARPOON WITH BARB RIGHT TO BAR
2956||LEFTWARDS HARPOON WITH BARB DOWN TO BAR|RIGHTWARDS HARPOON WITH BARB DOWN TO BAR
2958||UPWARDS HARPOON WITH BARB LEFT TO BAR|DOWNWARDS HARPOON WITH BARB LEFT TO BAR
295A||LEFTWARDS HARPOON WITH BARB UP FROM BAR|RIGHTWARDS HARPOON WITH BARB UP FROM BAR
295C||UPWARDS HARPOON WITH BARB RIGHT FROM BAR|DOWNWARDS HARPOON WITH BARB RIGHT FROM BAR
295E||LEFTWARDS HARPOON WITH BARB DOWN FROM BAR|RIGHTWARDS HARPOON WITH BARB DOWN FROM BAR
2960||UPWARDS HARPOON WITH BARB LEFT FROM BAR|DOWNWARDS HARPOON WITH BARB LEFT FROM BAR
2962||LEFTWARDS HARPOON WITH BARB UP ABOVE LEFTWARDS HARPOON WITH BARB DOWN
2963||UPWARDS HARPOON WITH BARB LEFT BESIDE UPWARDS HARPOON WITH BARB RIGHT
2964||RIGHTWARDS HARPOON WITH BARB UP ABOVE RIGHTWARDS HARPOON WITH BARB DOWN
2965||DOWNWARDS HARPOON WITH BARB LEFT BESIDE DOWNWARDS HARPOON WITH BARB RIGHT
2966||LEFTWARDS HARPOON WITH BARB UP ABOVE RIGHTWARDS HARPOON WITH BARB UP
2967||LEFTWARDS HARPOON WITH BARB DOWN ABOVE RIGHTWARDS HARPOON WITH BARB DOWN
2968||RIGHTWARDS HARPOON WITH BARB UP ABOVE LEFTWARDS HARPOON WITH BARB UP
2969||RIGHTWARDS HARPOON WITH BARB DOWN ABOVE LEFTWARDS HARPOON WITH BARB DOWN
296A|LEFTWARDS HARPOON WITH BARB |UP ABOVE LONG DASH|DOWN BELOW LONG DASH
296C|RIGHTWARDS HARPOON WITH BARB |UP ABOVE LONG DASH|DOWN BELOW LONG DASH
296E||UPWARDS HARPOON WITH BARB LEFT BESIDE DOWNWARDS HARPOON WITH BARB RIGHT
296F||DOWNWARDS HARPOON WITH BARB LEFT BESIDE UPWARDS HARPOON WITH BARB RIGHT
2970||RIGHT DOUBLE ARROW WITH ROUNDED HEAD|EQUALS SIGN ABOVE RIGHTWARDS ARROW
2972||TILDE OPERATOR ABOVE RIGHTWARDS ARROW|LEFTWARDS ARROW ABOVE TILDE OPERATOR
2974|RIGHTWARDS ARROW ABOVE |TILDE OPERATOR|ALMOST EQUAL TO
2976|LE|SS-THAN ABOVE LEFTWARDS ARROW|FTWARDS ARROW THROUGH LESS-THAN
2978||GREATER-THAN ABOVE RIGHTWARDS ARROW|SUBSET ABOVE RIGHTWARDS ARROW
297A||LEFTWARDS ARROW THROUGH SUBSET|SUPERSET ABOVE LEFTWARDS ARROW|LEFT FISH TAIL
297D||RIGHT FISH TAIL|UP FISH TAIL|DOWN FISH TAIL|TRIPLE VERTICAL BAR DELIMITER
2981|Z NOTATION |SPOT|TYPE COLON
2983||LEFT WHITE CURLY BRACKET|RIGHT WHITE CURLY BRACKET|LEFT WHITE PARENTHESIS|RIGHT WHITE PARENTHESIS
2987|Z NOTATION |LEFT IMAGE BRACKET|RIGHT IMAGE BRACKET|LEFT BINDING BRACKET|RIGHT BINDING BRACKET
298B||LEFT SQUARE BRACKET WITH UNDERBAR|RIGHT SQUARE BRACKET WITH UNDERBAR
298D||LEFT SQUARE BRACKET WITH TICK IN TOP CORNER|RIGHT SQUARE BRACKET WITH TICK IN BOTTOM CORNER
298F||LEFT SQUARE BRACKET WITH TICK IN BOTTOM CORNER|RIGHT SQUARE BRACKET WITH TICK IN TOP CORNER
2991||LEFT ANGLE BRACKET WITH DOT|RIGHT ANGLE BRACKET WITH DOT|LEFT ARC LESS-THAN BRACKET
2994||RIGHT ARC GREATER-THAN BRACKET|DOUBLE LEFT ARC GREATER-THAN BRACKET|DOUBLE RIGHT ARC LESS-THAN BRACKET
2997||LEFT BLACK TORTOISE SHELL BRACKET|RIGHT BLACK TORTOISE SHELL BRACKET|DOTTED FENCE|VERTICAL ZIGZAG LINE
299B||MEASURED ANGLE OPENING LEFT|RIGHT ANGLE VARIANT WITH SQUARE|MEASURED RIGHT ANGLE WITH DOT
299E|A|NGLE WITH S INSIDE|CUTE ANGLE
29A0|SPHERICAL ANGLE OPENING |LEFT|UP
29A2||TURNED ANGLE|REVERSED ANGLE|ANGLE WITH UNDERBAR|REVERSED ANGLE WITH UNDERBAR
29A6|OBLIQUE ANGLE OPENING |UP|DOWN
29A8|MEASURED ANGLE WITH OPEN ARM ENDING IN ARROW POINTING UP AND |RIGHT|LEFT
29AA|MEASURED ANGLE WITH OPEN ARM ENDING IN ARROW POINTING |DOWN AND RIGHT|DOWN AND LEFT|RIGHT AND UP
29AD|MEASURED ANGLE WITH OPEN ARM ENDING IN ARROW POINTING |LEFT AND UP|RIGHT AND DOWN|LEFT AND DOWN
29B0||REVERSED EMPTY SET
29B1|EMPTY SET WITH |OVERBAR|SMALL CIRCLE ABOVE|RIGHT ARROW ABOVE|LEFT ARROW ABOVE
29B5|CIRCLE| WITH HORIZONTAL BAR|D VERTICAL BAR|D PARALLEL|D REVERSE SOLIDUS|D PERPENDICULAR
29BA|CIRCLE |DIVIDED BY HORIZONTAL BAR AND TOP HALF DIVIDED BY VERTICAL BAR|WITH SUPERIMPOSED X
29BC||CIRCLED ANTICLOCKWISE-ROTATED DIVISION SIGN|UP ARROW THROUGH CIRCLE
29BE|CIRCLED |WHITE BULLET|BULLET|LESS-THAN|GREATER-THAN
29C2|CIRCLE WITH |SMALL CIRCLE TO THE RIGHT|TWO HORIZONTAL STROKES TO THE RIGHT
29C4|SQUARED |RISING DIAGONAL SLASH|FALLING DIAGONAL SLASH|ASTERISK|SMALL CIRCLE|SQUARE
29C9||TWO JOINED SQUARES
29CA|TRIANGLE WITH |DOT ABOVE|UNDERBAR
29CC||S IN TRIANGLE|TRIANGLE WITH SERIFS AT BOTTOM|RIGHT TRIANGLE ABOVE LEFT TRIANGLE
29CF||LEFT TRIANGLE BESIDE VERTICAL BAR|VERTICAL BAR BESIDE RIGHT TRIANGLE
29D1|BOWTIE WITH |LEFT HALF BLACK|RIGHT HALF BLACK
29D3||BLACK BOWTIE|TIMES WITH LEFT HALF BLACK|TIMES WITH RIGHT HALF BLACK|WHITE HOURGLASS
29D7||BLACK HOURGLASS|LEFT WIGGLY FENCE|RIGHT WIGGLY FENCE|LEFT DOUBLE WIGGLY FENCE
29DB||RIGHT DOUBLE WIGGLY FENCE|INCOMPLETE INFINITY|TIE OVER INFINITY|INFINITY NEGATED WITH VERTICAL BAR
29DF||DOUBLE-ENDED MULTIMAP|SQUARE WITH CONTOURED OUTLINE|INCREASES AS|SHUFFLE PRODUCT
29E3|EQUALS SIGN AND SLANTED PARALLEL|| WITH TILDE ABOVE
29E5||IDENTICAL TO AND SLANTED PARALLEL|GLEICH STARK|THERMODYNAMIC
29E8|DOWN-POINTING TRIANGLE WITH |LEFT HALF BLACK|RIGHT HALF BLACK
29EA||BLACK DIAMOND WITH DOWN ARROW|BLACK LOZENGE|WHITE CIRCLE WITH DOWN ARROW|BLACK CIRCLE WITH DOWN ARROW
29EE|ERROR-BARRED |WHITE SQUARE|BLACK SQUARE|WHITE DIAMOND|BLACK DIAMOND|WHITE CIRCLE|BLACK CIRCLE
29F4||RULE-DELAYED|REVERSE SOLIDUS OPERATOR|SOLIDUS WITH OVERBAR|REVERSE SOLIDUS WITH HORIZONTAL STROKE
29F8||BIG SOLIDUS|BIG REVERSE SOLIDUS|DOUBLE PLUS|TRIPLE PLUS
29FC||LEFT-POINTING CURVED ANGLE BRACKET|RIGHT-POINTING CURVED ANGLE BRACKET|TINY|MINY
2A00|N-ARY CIRCLED |DOT OPERATOR|PLUS OPERATOR|TIMES OPERATOR
2A03|N-ARY UNION OPERATOR WITH |DOT|PLUS
2A05|N-ARY SQUARE |INTERSECTION OPERATOR|UNION OPERATOR
2A07|TWO LOGICAL |AND OPERATOR|OR OPERATOR
2A09||N-ARY TIMES OPERATOR
2A0A||MODULO TWO SUM|SUMMATION WITH INTEGRAL|QUADRUPLE INTEGRAL OPERATOR|FINITE PART INTEGRAL
2A0E|INTEGRAL |WITH DOUBLE STROKE|AVERAGE WITH SLASH
2A10||CIRCULATION FUNCTION|ANTICLOCKWISE INTEGRATION
2A12|LINE INTEGRATION WITH |RECTANGULAR PATH AROUND POLE|SEMICIRCULAR PATH AROUND POLE
2A14||LINE INTEGRATION NOT INCLUDING THE POLE|INTEGRAL AROUND A POINT OPERATOR|QUATERNION INTEGRAL OPERATOR
2A17|INTEGRAL WITH |LEFTWARDS ARROW WITH HOOK|TIMES SIGN|INTERSECTION|UNION|OVERBAR|UNDERBAR
2A1D||JOIN|LARGE LEFT TRIANGLE OPERATOR
2A1F|Z NOTATION SCHEMA |COMPOSITION|PIPING|PROJECTION
2A22||PLUS SIGN WITH SMALL CIRCLE ABOVE
2A23|PLUS SIGN WITH |CIRCUMFLEX ACCENT ABOVE|TILDE ABOVE|DOT BELOW|TILDE BELOW|SUBSCRIPT TWO|BLACK TRIANGLE
2A29|MINUS SIGN WITH |COMMA ABOVE|DOT BELOW|FALLING DOTS|RISING DOTS
2A2D|PLUS SIGN IN |LEFT HALF CIRCLE|RIGHT HALF CIRCLE
2A2F||VECTOR OR CROSS PRODUCT
2A30|MULTIPLICATION SIGN WITH |DOT ABOVE|UNDERBAR
2A32|S|EMIDIRECT PRODUCT WITH BOTTOM CLOSED|MASH PRODUCT
2A34|MULTIPLICATION SIGN IN |LEFT HALF CIRCLE|RIGHT HALF CIRCLE
2A36||CIRCLED MULTIPLICATION SIGN WITH CIRCUMFLEX ACCENT
2A37||MULTIPLICATION SIGN IN DOUBLE CIRCLE|CIRCLED DIVISION SIGN|PLUS SIGN IN TRIANGLE
2A3A||MINUS SIGN IN TRIANGLE|MULTIPLICATION SIGN IN TRIANGLE|INTERIOR PRODUCT|RIGHTHAND INTERIOR PRODUCT
2A3E||Z NOTATION RELATIONAL COMPOSITION|AMALGAMATION OR COPRODUCT|INTERSECTION WITH DOT
2A41|UNION WITH |MINUS SIGN|OVERBAR
2A43|INTERSECTION WITH |OVERBAR|LOGICAL AND
2A45|UNION |WITH LOGICAL OR|ABOVE INTERSECTION
2A47||INTERSECTION ABOVE UNION|UNION ABOVE BAR ABOVE INTERSECTION|INTERSECTION ABOVE BAR ABOVE UNION
2A4A||UNION BESIDE AND JOINED WITH UNION|INTERSECTION BESIDE AND JOINED WITH INTERSECTION
2A4C|CLOSED |UNION WITH SERIFS|INTERSECTION WITH SERIFS
2A4E|DOUBLE SQUARE |INTERSECTION|UNION
2A50||CLOSED UNION WITH SERIFS AND SMASH PRODUCT
2A51|LOGICAL |AND WITH DOT ABOVE|OR WITH DOT ABOVE
2A53|DOUBLE LOGICAL |AND|OR
2A55|TWO INTERSECTING LOGICAL |AND|OR
2A57|SLOPING LARGE |OR|AND
2A59||LOGICAL OR OVERLAPPING LOGICAL AND
2A5A|LOGICAL |AND WITH MIDDLE STEM|OR WITH MIDDLE STEM|AND WITH HORIZONTAL DASH|OR WITH HORIZONTAL DASH
2A5E|LOGICAL AND WITH |DOUBLE OVERBAR|UNDERBAR|DOUBLE UNDERBAR
2A61||SMALL VEE WITH UNDERBAR
2A62|LOGICAL OR WITH DOUBLE |OVERBAR|UNDERBAR
2A64|Z NOTATION |DOMAIN ANTIRESTRICTION|RANGE ANTIRESTRICTION
2A66||EQUALS SIGN WITH DOT BELOW|IDENTICAL WITH DOT ABOVE
2A68|TRIPLE HORIZONTAL BAR WITH |DOUBLE VERTICAL STROKE|TRIPLE VERTICAL STROKE
2A6A|TILDE OPERATOR WITH |DOT ABOVE|RISING DOTS
2A6C||SIMILAR MINUS SIMILAR|CONGRUENT WITH DOT ABOVE|EQUALS WITH ASTERISK
2A6F|A|LMOST EQUAL TO WITH CIRCUMFLEX ACCENT|PPROXIMATELY EQUAL OR EQUAL TO
2A71||EQUALS SIGN ABOVE PLUS SIGN|PLUS SIGN ABOVE EQUALS SIGN|EQUALS SIGN ABOVE TILDE OPERATOR
2A74||DOUBLE COLON EQUAL|TWO CONSECUTIVE EQUALS SIGNS|THREE CONSECUTIVE EQUALS SIGNS
2A77|EQU|ALS SIGN WITH TWO DOTS ABOVE AND TWO DOTS BELOW|IVALENT WITH FOUR DOTS ABOVE
2A79||LESS-THAN WITH CIRCLE INSIDE|GREATER-THAN WITH CIRCLE INSIDE
2A7B||LESS-THAN WITH QUESTION MARK ABOVE|GREATER-THAN WITH QUESTION MARK ABOVE|LESS-THAN OR SLANTED EQUAL TO
2A7E||GREATER-THAN OR SLANTED EQUAL TO|LESS-THAN OR SLANTED EQUAL TO WITH DOT INSIDE
2A80||GREATER-THAN OR SLANTED EQUAL TO WITH DOT INSIDE|LESS-THAN OR SLANTED EQUAL TO WITH DOT ABOVE
2A82||GREATER-THAN OR SLANTED EQUAL TO WITH DOT ABOVE|LESS-THAN OR SLANTED EQUAL TO WITH DOT ABOVE RIGHT
2A84||GREATER-THAN OR SLANTED EQUAL TO WITH DOT ABOVE LEFT
2A85||LESS-THAN OR APPROXIMATE|GREATER-THAN OR APPROXIMATE|LESS-THAN AND SINGLE-LINE NOT EQUAL TO
2A88||GREATER-THAN AND SINGLE-LINE NOT EQUAL TO|LESS-THAN AND NOT APPROXIMATE
2A8A||GREATER-THAN AND NOT APPROXIMATE|LESS-THAN ABOVE DOUBLE-LINE EQUAL ABOVE GREATER-THAN
2A8C||GREATER-THAN ABOVE DOUBLE-LINE EQUAL ABOVE LESS-THAN|LESS-THAN ABOVE SIMILAR OR EQUAL
2A8E||GREATER-THAN ABOVE SIMILAR OR EQUAL|LESS-THAN ABOVE SIMILAR ABOVE GREATER-THAN
2A90||GREATER-THAN ABOVE SIMILAR ABOVE LESS-THAN|LESS-THAN ABOVE GREATER-THAN ABOVE DOUBLE-LINE EQUAL
2A92||GREATER-THAN ABOVE LESS-THAN ABOVE DOUBLE-LINE EQUAL
2A93||LESS-THAN ABOVE SLANTED EQUAL ABOVE GREATER-THAN ABOVE SLANTED EQUAL
2A94||GREATER-THAN ABOVE SLANTED EQUAL ABOVE LESS-THAN ABOVE SLANTED EQUAL
2A95|SLANTED EQUAL TO OR |LESS-THAN|GREATER-THAN|LESS-THAN WITH DOT INSIDE|GREATER-THAN WITH DOT INSIDE
2A99|DOUBLE-LINE EQUAL TO OR |LESS-THAN|GREATER-THAN
2A9B|DOUBLE-LINE SLANTED EQUAL TO OR |LESS-THAN|GREATER-THAN
2A9D|SIMILAR OR |LESS-THAN|GREATER-THAN
2A9F|SIMILAR ABOVE |LESS-THAN ABOVE EQUALS SIGN|GREATER-THAN ABOVE EQUALS SIGN
2AA1|DOUBLE NESTED |LESS-THAN|GREATER-THAN|LESS-THAN WITH UNDERBAR
2AA4|GREATER-THAN |OVERLAPPING LESS-THAN|BESIDE LESS-THAN
2AA6||LESS-THAN CLOSED BY CURVE|GREATER-THAN CLOSED BY CURVE|LESS-THAN CLOSED BY CURVE ABOVE SLANTED EQUAL
2AA9||GREATER-THAN CLOSED BY CURVE ABOVE SLANTED EQUAL|SMALLER THAN|LARGER THAN|SMALLER THAN OR EQUAL TO
2AAD||LARGER THAN OR EQUAL TO|EQUALS SIGN WITH BUMPY ABOVE|PRECEDES ABOVE SINGLE-LINE EQUALS SIGN
2AB0||SUCCEEDS ABOVE SINGLE-LINE EQUALS SIGN|PRECEDES ABOVE SINGLE-LINE NOT EQUAL TO
2AB2||SUCCEEDS ABOVE SINGLE-LINE NOT EQUAL TO|PRECEDES ABOVE EQUALS SIGN|SUCCEEDS ABOVE EQUALS SIGN
2AB5||PRECEDES ABOVE NOT EQUAL TO|SUCCEEDS ABOVE NOT EQUAL TO|PRECEDES ABOVE ALMOST EQUAL TO
2AB8||SUCCEEDS ABOVE ALMOST EQUAL TO|PRECEDES ABOVE NOT ALMOST EQUAL TO|SUCCEEDS ABOVE NOT ALMOST EQUAL TO
2ABB|DOUBLE |PRECEDES|SUCCEEDS
2ABD|SU|BSET WITH DOT|PERSET WITH DOT|BSET WITH PLUS SIGN BELOW|PERSET WITH PLUS SIGN BELOW
2AC1|SU|BSET WITH MULTIPLICATION SIGN BELOW|PERSET WITH MULTIPLICATION SIGN BELOW
2AC3|SU|BSET OF OR EQUAL TO WITH DOT ABOVE|PERSET OF OR EQUAL TO WITH DOT ABOVE|BSET OF ABOVE EQUALS SIGN
2AC6|SU|PERSET OF ABOVE EQUALS SIGN|BSET OF ABOVE TILDE OPERATOR|PERSET OF ABOVE TILDE OPERATOR
2AC9|SU|BSET OF ABOVE ALMOST EQUAL TO|PERSET OF ABOVE ALMOST EQUAL TO|BSET OF ABOVE NOT EQUAL TO
2ACC|S|UPERSET OF ABOVE NOT EQUAL TO|QUARE LEFT OPEN BOX OPERATOR|QUARE RIGHT OPEN BOX OPERATOR
2ACF|CLOSED SU|BSET|PERSET|BSET OR EQUAL TO|PERSET OR EQUAL TO
2AD3|SU|BSET ABOVE SUPERSET|PERSET ABOVE SUBSET|BSET ABOVE SUBSET
2AD6|SUPERSET |ABOVE SUPERSET|BESIDE SUBSET|BESIDE AND JOINED BY DASH WITH SUBSET
2AD9||ELEMENT OF OPENING DOWNWARDS
2ADA||PITCHFORK WITH TEE TOP|TRANSVERSAL INTERSECTION|FORKING|NONFORKING
2ADE|SHORT |LEFT TACK|DOWN TACK|UP TACK
2AE1||PERPENDICULAR WITH S|VERTICAL BAR TRIPLE RIGHT TURNSTILE|DOUBLE VERTICAL BAR LEFT TURNSTILE
2AE4||VERTICAL BAR DOUBLE LEFT TURNSTILE|DOUBLE VERTICAL BAR DOUBLE LEFT TURNSTILE
2AE6||LONG DASH FROM LEFT MEMBER OF DOUBLE VERTICAL|SHORT DOWN TACK WITH OVERBAR
2AE8|SHORT UP TACK |WITH UNDERBAR|ABOVE SHORT DOWN TACK
2AEA|DOUBLE |DOWN TACK|UP TACK|STROKE NOT SIGN
2AED||REVERSED DOUBLE STROKE NOT SIGN|DOES NOT DIVIDE WITH REVERSED NEGATION SLASH
2AEF|VERTICAL LINE WITH CIRCLE |ABOVE|BELOW
2AF1||DOWN TACK WITH CIRCLE BELOW
2AF2|PARALLEL WITH |HORIZONTAL STROKE|TILDE OPERATOR
2AF4|TRIPLE VERTICAL BAR |BINARY RELATION|WITH HORIZONTAL STROKE
2AF6|TRIPLE |COLON OPERATOR|NESTED LESS-THAN|NESTED GREATER-THAN
2AF9|DOUBLE-LINE SLANTED |LESS-THAN OR EQUAL TO|GREATER-THAN OR EQUAL TO
2AFB||TRIPLE SOLIDUS BINARY RELATION|LARGE TRIPLE VERTICAL BAR OPERATOR|DOUBLE SOLIDUS OPERATOR
2AFE||WHITE VERTICAL BAR|N-ARY WHITE VERTICAL BAR|NORTH EAST WHITE ARROW|NORTH WEST WHITE ARROW
2B02|SOUTH |EAST WHITE ARROW|WEST WHITE ARROW
2B04||LEFT RIGHT WHITE ARROW|LEFTWARDS BLACK ARROW|UPWARDS BLACK ARROW|DOWNWARDS BLACK ARROW
2B08|NORTH |EAST BLACK ARROW|WEST BLACK ARROW
2B0A||SOUTH EAST BLACK ARROW|SOUTH WEST BLACK ARROW|LEFT RIGHT BLACK ARROW|UP DOWN BLACK ARROW
2B0E|RIGHTWARDS ARROW WITH TIP |DOWNWARDS|UPWARDS
2B10|LEFTWARDS ARROW WITH TIP |DOWNWARDS|UPWARDS
2B12||SQUARE WITH TOP HALF BLACK
2B13|SQUARE WITH |BOTTOM HALF BLACK|UPPER RIGHT DIAGONAL HALF BLACK|LOWER LEFT DIAGONAL HALF BLACK
2B16|DIAMOND WITH |LEFT HALF BLACK|RIGHT HALF BLACK|TOP HALF BLACK|BOTTOM HALF BLACK
2B1A||DOTTED SQUARE|BLACK LARGE SQUARE|WHITE LARGE SQUARE
2B1D||BLACK VERY SMALL SQUARE|WHITE VERY SMALL SQUARE|BLACK PENTAGON|WHITE PENTAGON
2B21||WHITE HEXAGON|BLACK HEXAGON|HORIZONTAL BLACK HEXAGON|BLACK LARGE CIRCLE
2B25||BLACK MEDIUM DIAMOND|WHITE MEDIUM DIAMOND|BLACK MEDIUM LOZENGE|WHITE MEDIUM LOZENGE
2B29|BLACK SMALL |DIAMOND|LOZENGE
2B2B||WHITE SMALL LOZENGE|BLACK HORIZONTAL ELLIPSE|WHITE HORIZONTAL ELLIPSE
2B2E||BLACK VERTICAL ELLIPSE|WHITE VERTICAL ELLIPSE|LEFT ARROW WITH SMALL CIRCLE|THREE LEFTWARDS ARROWS
2B32|L|EFT ARROW WITH CIRCLED PLUS|ONG LEFTWARDS SQUIGGLE ARROW
2B34|LEFTWARDS TWO-HEADED ARROW |WITH VERTICAL STROKE|WITH DOUBLE VERTICAL STROKE|FROM BAR
2B37||LEFTWARDS TWO-HEADED TRIPLE DASH ARROW
2B38|LEFTWARDS ARROW WITH |DOTTED STEM|TAIL WITH VERTICAL STROKE|TAIL WITH DOUBLE VERTICAL STROKE
2B3B|LEFTWARDS TWO-HEADED ARROW WITH TAIL|| WITH VERTICAL STROKE| WITH DOUBLE VERTICAL STROKE
2B3E||LEFTWARDS ARROW THROUGH X|WAVE ARROW POINTING DIRECTLY LEFT|EQUALS SIGN ABOVE LEFTWARDS ARROW
2B41||REVERSE TILDE OPERATOR ABOVE LEFTWARDS ARROW|LEFTWARDS ARROW ABOVE REVERSE ALMOST EQUAL TO
2B43|RIGHTWARDS ARROW THROUGH |GREATER-THAN|SUPERSET
2B45||LEFTWARDS QUADRUPLE ARROW|RIGHTWARDS QUADRUPLE ARROW|REVERSE TILDE OPERATOR ABOVE RIGHTWARDS ARROW
2B48||RIGHTWARDS ARROW ABOVE REVERSE ALMOST EQUAL TO|TILDE OPERATOR ABOVE LEFTWARDS ARROW
2B4A|LEFTWARDS ARROW ABOVE |ALMOST EQUAL TO|REVERSE TILDE OPERATOR
2B4C||RIGHTWARDS ARROW ABOVE REVERSE TILDE OPERATOR|DOWNWARDS TRIANGLE-HEADED ZIGZAG ARROW
2B4E||SHORT SLANTED NORTH ARROW|SHORT BACKSLANTED SOUTH ARROW|WHITE MEDIUM STAR
2B51||BLACK SMALL STAR|WHITE SMALL STAR|BLACK RIGHT-POINTING PENTAGON|WHITE RIGHT-POINTING PENTAGON
2B55|HEAVY |LARGE CIRCLE|OVAL WITH OVAL INSIDE|CIRCLE WITH CIRCLE INSIDE|CIRCLE|CIRCLED SALTIRE
2B5A||SLANTED NORTH ARROW WITH HOOKED HEAD|BACKSLANTED SOUTH ARROW WITH HOOKED TAIL
2B5C||SLANTED NORTH ARROW WITH HORIZONTAL TAIL|BACKSLANTED SOUTH ARROW WITH HORIZONTAL TAIL
2B5E||BENT ARROW POINTING DOWNWARDS THEN NORTH EAST|SHORT BENT ARROW POINTING DOWNWARDS THEN NORTH EAST
2B60||LEFTWARDS TRIANGLE-HEADED ARROW|UPWARDS TRIANGLE-HEADED ARROW|RIGHTWARDS TRIANGLE-HEADED ARROW
2B63||DOWNWARDS TRIANGLE-HEADED ARROW|LEFT RIGHT TRIANGLE-HEADED ARROW|UP DOWN TRIANGLE-HEADED ARROW
2B66|NORTH |WEST TRIANGLE-HEADED ARROW|EAST TRIANGLE-HEADED ARROW
2B68|SOUTH |EAST TRIANGLE-HEADED ARROW|WEST TRIANGLE-HEADED ARROW
2B6A||LEFTWARDS TRIANGLE-HEADED DASHED ARROW|UPWARDS TRIANGLE-HEADED DASHED ARROW
2B6C||RIGHTWARDS TRIANGLE-HEADED DASHED ARROW|DOWNWARDS TRIANGLE-HEADED DASHED ARROW
2B6E||CLOCKWISE TRIANGLE-HEADED OPEN CIRCLE ARROW|ANTICLOCKWISE TRIANGLE-HEADED OPEN CIRCLE ARROW
2B70||LEFTWARDS TRIANGLE-HEADED ARROW TO BAR|UPWARDS TRIANGLE-HEADED ARROW TO BAR
2B72||RIGHTWARDS TRIANGLE-HEADED ARROW TO BAR|DOWNWARDS TRIANGLE-HEADED ARROW TO BAR
2B76|NORTH |WEST TRIANGLE-HEADED ARROW TO BAR|EAST TRIANGLE-HEADED ARROW TO BAR
2B78|SOUTH |EAST TRIANGLE-HEADED ARROW TO BAR|WEST TRIANGLE-HEADED ARROW TO BAR
2B7A||LEFTWARDS TRIANGLE-HEADED ARROW WITH DOUBLE HORIZONTAL STROKE
2B7B||UPWARDS TRIANGLE-HEADED ARROW WITH DOUBLE HORIZONTAL STROKE
2B7C||RIGHTWARDS TRIANGLE-HEADED ARROW WITH DOUBLE HORIZONTAL STROKE
2B7D||DOWNWARDS TRIANGLE-HEADED ARROW WITH DOUBLE HORIZONTAL STROKE|HORIZONTAL TAB KEY
2B7F||VERTICAL TAB KEY|LEFTWARDS TRIANGLE-HEADED ARROW OVER RIGHTWARDS TRIANGLE-HEADED ARROW
2B81||UPWARDS TRIANGLE-HEADED ARROW LEFTWARDS OF DOWNWARDS TRIANGLE-HEADED ARROW
2B82||RIGHTWARDS TRIANGLE-HEADED ARROW OVER LEFTWARDS TRIANGLE-HEADED ARROW
2B83||DOWNWARDS TRIANGLE-HEADED ARROW LEFTWARDS OF UPWARDS TRIANGLE-HEADED ARROW
2B84||LEFTWARDS TRIANGLE-HEADED PAIRED ARROWS|UPWARDS TRIANGLE-HEADED PAIRED ARROWS
2B86||RIGHTWARDS TRIANGLE-HEADED PAIRED ARROWS|DOWNWARDS TRIANGLE-HEADED PAIRED ARROWS
2B88||LEFTWARDS BLACK CIRCLED WHITE ARROW|UPWARDS BLACK CIRCLED WHITE ARROW
2B8A||RIGHTWARDS BLACK CIRCLED WHITE ARROW|DOWNWARDS BLACK CIRCLED WHITE ARROW
2B8C|ANTICLOCKWISE TRIANGLE-HEADED |RIGHT U-SHAPED ARROW|BOTTOM U-SHAPED ARROW|LEFT U-SHAPED ARROW
2B8F||ANTICLOCKWISE TRIANGLE-HEADED TOP U-SHAPED ARROW|RETURN LEFT|RETURN RIGHT
2B92|NEWLINE |LEFT|RIGHT
2B94||FOUR CORNER ARROWS CIRCLING ANTICLOCKWISE|RIGHTWARDS BLACK ARROW
2B97||SYMBOL FOR TYPE A ELECTRONICS
2B98|THREE-D |TOP-LIGHTED LEFTWARDS EQUILATERAL ARROWHEAD|RIGHT-LIGHTED UPWARDS EQUILATERAL ARROWHEAD
2B9A|THREE-D |TOP-LIGHTED RIGHTWARDS EQUILATERAL ARROWHEAD|LEFT-LIGHTED DOWNWARDS EQUILATERAL ARROWHEAD
2B9C||BLACK LEFTWARDS EQUILATERAL ARROWHEAD
2B9D|BLACK |UPWARDS EQUILATERAL ARROWHEAD|RIGHTWARDS EQUILATERAL ARROWHEAD|DOWNWARDS EQUILATERAL ARROWHEAD
2BA0|DOWNWARDS TRIANGLE-HEADED ARROW WITH LONG TIP |LEFTWARDS|RIGHTWARDS
2BA2|UPWARDS TRIANGLE-HEADED ARROW WITH LONG TIP |LEFTWARDS|RIGHTWARDS
2BA4||LEFTWARDS TRIANGLE-HEADED ARROW WITH LONG TIP UPWARDS
2BA5||RIGHTWARDS TRIANGLE-HEADED ARROW WITH LONG TIP UPWARDS
2BA6||LEFTWARDS TRIANGLE-HEADED ARROW WITH LONG TIP DOWNWARDS
2BA7||RIGHTWARDS TRIANGLE-HEADED ARROW WITH LONG TIP DOWNWARDS
2BA8|BLACK CURVED DOWNWARDS AND |LEFTWARDS ARROW|RIGHTWARDS ARROW
2BAA|BLACK CURVED |UPWARDS AND LEFTWARDS ARROW|UPWARDS AND RIGHTWARDS ARROW|LEFTWARDS AND UPWARDS ARROW
2BAD|BLACK CURVED |RIGHTWARDS AND UPWARDS ARROW|LEFTWARDS AND DOWNWARDS ARROW|RIGHTWARDS AND DOWNWARDS ARROW
2BB0|RIBBON ARROW |DOWN LEFT|DOWN RIGHT|UP LEFT|UP RIGHT|LEFT UP|RIGHT UP|LEFT DOWN|RIGHT DOWN
2BB8|UP|WARDS WHITE ARROW FROM BAR WITH HORIZONTAL BAR| ARROWHEAD IN A RECTANGLE BOX
2BBA|OVERLAPPING |WHITE SQUARES|WHITE AND BLACK SQUARES|BLACK SQUARES
2BBD||BALLOT BOX WITH LIGHT X
2BBE|CIRCLED |X|BOLD X
2BC0||BLACK SQUARE CENTRED|BLACK DIAMOND CENTRED|TURNED BLACK PENTAGON|HORIZONTAL BLACK OCTAGON
2BC4|BLACK |OCTAGON|MEDIUM UP-POINTING TRIANGLE CENTRED|MEDIUM DOWN-POINTING TRIANGLE CENTRED
2BC7|BLACK MEDIUM |LEFT-POINTING TRIANGLE CENTRED|RIGHT-POINTING TRIANGLE CENTRED
2BC9||NEPTUNE FORM TWO|TOP HALF BLACK CIRCLE|BOTTOM HALF BLACK CIRCLE
2BCC||LIGHT FOUR POINTED BLACK CUSP|ROTATED LIGHT FOUR POINTED BLACK CUSP|WHITE FOUR POINTED CUSP
2BCF||ROTATED WHITE FOUR POINTED CUSP|SQUARE POSITION INDICATOR|UNCERTAINTY SIGN|GROUP MARK
2BD3|PLUTO FORM |TWO|THREE|FOUR|FIVE
2BD7||TRANSPLUTO|PROSERPINA|ASTRAEA
2BDA||HYGIEA|PHOLUS|NESSUS|WHITE MOON SELENA
2BDE||BLACK DIAMOND ON CROSS|TRUE LIGHT MOON ARTA|CUPIDO|HADES
2BE2||ZEUS|KRONOS|APOLLON|ADMETOS
2BE6||VULCANUS|POSEIDON|LEFT HALF BLACK STAR|RIGHT HALF BLACK STAR
2BEA|STAR WITH |LEFT HALF BLACK|RIGHT HALF BLACK
2BEC||LEFTWARDS TWO-HEADED ARROW WITH TRIANGLE ARROWHEADS
2BED||UPWARDS TWO-HEADED ARROW WITH TRIANGLE ARROWHEADS|RIGHTWARDS TWO-HEADED ARROW WITH TRIANGLE ARROWHEADS
2BEF||DOWNWARDS TWO-HEADED ARROW WITH TRIANGLE ARROWHEADS|ERIS FORM ONE|ERIS FORM TWO|SEDNA
2BF3|RUSSIAN ASTROLOGICAL SYMBOL |VIGINTILE|NOVILE|QUINTILE|BINOVILE|SENTAGON|TREDECILE
2BF9||EQUALS SIGN WITH INFINITY BELOW|UNITED SYMBOL|SEPARATED SYMBOL
2BFC||DOUBLED SYMBOL|PASSED SYMBOL|REVERSED RIGHT ANGLE|HELLSCHREIBER PAUSE SYMBOL
2C00|GLAGOLITIC CAPITAL LETTER |AZU|BUKY|VEDE|GLAGOLI|DOBRO|YESTU|ZHIVETE|DZELO|ZEMLJA|IZHE|INITIAL IZHE
2C0B|GLAGOLITIC CAPITAL LETTER |I|DJERVI|KAKO|LJUDIJE|MYSLITE|NASHI|ONU|POKOJI|RITSI|SLOVO|TVRIDO
2C16|GLAGOLITIC CAPITAL LETTER |UKU|FRITU|HERU|OTU|PE|SHTA|TSI|CHRIVI|SHA|YERU|YERI|YATI|SPIDERY HA|YU
2C24|GLAGOLITIC CAPITAL LETTER |SMALL YUS|SMALL YUS WITH TAIL|YO|IOTATED SMALL YUS|BIG YUS|IOTATED BIG YUS
2C2A|GLAGOLITIC CAPITAL LETTER |FITA|IZHITSA|SHTAPIC|TROKUTASTI A|LATINATE MYSLITE|CAUDATE CHRIVI
2C30|GLAGOLITIC SMALL LETTER |AZU|BUKY|VEDE|GLAGOLI|DOBRO|YESTU|ZHIVETE|DZELO|ZEMLJA
2C39|GLAGOLITIC SMALL LETTER |IZHE|INITIAL IZHE|I|DJERVI|KAKO|LJUDIJE|MYSLITE|NASHI|ONU|POKOJI|RITSI|SLOVO
2C45|GLAGOLITIC SMALL LETTER |TVRIDO|UKU|FRITU|HERU|OTU|PE|SHTA|TSI|CHRIVI|SHA|YERU|YERI|YATI|SPIDERY HA
2C53|GLAGOLITIC SMALL LETTER |YU|SMALL YUS|SMALL YUS WITH TAIL|YO|IOTATED SMALL YUS|BIG YUS|IOTATED BIG YUS
2C5A|GLAGOLITIC SMALL LETTER |FITA|IZHITSA|SHTAPIC|TROKUTASTI A|LATINATE MYSLITE|CAUDATE CHRIVI
2C60|LATIN |CAPITAL LETTER L WITH DOUBLE BAR|SMALL LETTER L WITH DOUBLE BAR
2C62|LATIN CAPITAL LETTER |L WITH MIDDLE TILDE|P WITH STROKE|R WITH TAIL
2C65|LATIN SMALL LETTER |A WITH STROKE|T WITH DIAGONAL STROKE
2C67|LATIN |CAPITAL LETTER H WITH DESCENDER|SMALL LETTER H WITH DESCENDER|CAPITAL LETTER K WITH DESCENDER
2C6A|LATIN |SMALL LETTER K WITH DESCENDER|CAPITAL LETTER Z WITH DESCENDER|SMALL LETTER Z WITH DESCENDER
2C6D|LATIN CAPITAL LETTER |ALPHA|M WITH HOOK|TURNED A|TURNED ALPHA
2C71|LATIN |SMALL LETTER V WITH RIGHT HOOK|CAPITAL LETTER W WITH HOOK
2C73|LATIN |SMALL LETTER W WITH HOOK|SMALL LETTER V WITH CURL|CAPITAL LETTER HALF H
2C76|LATIN SMALL LETTER |HALF H|TAILLESS PHI|E WITH NOTCH|TURNED R WITH TAIL|O WITH LOW RING INSIDE
2C7B||LATIN LETTER SMALL CAPITAL TURNED E|LATIN SUBSCRIPT SMALL LETTER J|MODIFIER LETTER CAPITAL V
2C7E|LATIN CAPITAL LETTER |S WITH SWASH TAIL|Z WITH SWASH TAIL
2C80||COPTIC CAPITAL LETTER ALFA
2C81|COPTIC |SMALL LETTER ALFA|CAPITAL LETTER VIDA|SMALL LETTER VIDA|CAPITAL LETTER GAMMA
2C85|COPTIC |SMALL LETTER GAMMA|CAPITAL LETTER DALDA|SMALL LETTER DALDA|CAPITAL LETTER EIE
2C89|COPTIC |SMALL LETTER EIE|CAPITAL LETTER SOU|SMALL LETTER SOU|CAPITAL LETTER ZATA|SMALL LETTER ZATA
2C8E|COPTIC |CAPITAL LETTER HATE|SMALL LETTER HATE|CAPITAL LETTER THETHE|SMALL LETTER THETHE
2C92|COPTIC |CAPITAL LETTER IAUDA|SMALL LETTER IAUDA|CAPITAL LETTER KAPA|SMALL LETTER KAPA
2C96|COPTIC |CAPITAL LETTER LAULA|SMALL LETTER LAULA|CAPITAL LETTER MI|SMALL LETTER MI|CAPITAL LETTER NI
2C9B|COPTIC |SMALL LETTER NI|CAPITAL LETTER KSI|SMALL LETTER KSI|CAPITAL LETTER O|SMALL LETTER O
2CA0|COPTIC |CAPITAL LETTER PI|SMALL LETTER PI|CAPITAL LETTER RO|SMALL LETTER RO|CAPITAL LETTER SIMA
2CA5|COPTIC |SMALL LETTER SIMA|CAPITAL LETTER TAU|SMALL LETTER TAU|CAPITAL LETTER UA|SMALL LETTER UA
2CAA|COPTIC |CAPITAL LETTER FI|SMALL LETTER FI|CAPITAL LETTER KHI|SMALL LETTER KHI|CAPITAL LETTER PSI
2CAF|COPTIC |SMALL LETTER PSI|CAPITAL LETTER OOU|SMALL LETTER OOU|CAPITAL LETTER DIALECT-P ALEF
2CB3|COPTIC |SMALL LETTER DIALECT-P ALEF|CAPITAL LETTER OLD COPTIC AIN|SMALL LETTER OLD COPTIC AIN
2CB6|COPTIC |CAPITAL LETTER CRYPTOGRAMMIC EIE|SMALL LETTER CRYPTOGRAMMIC EIE|CAPITAL LETTER DIALECT-P KAPA
2CB9|COPTIC |SMALL LETTER DIALECT-P KAPA|CAPITAL LETTER DIALECT-P NI|SMALL LETTER DIALECT-P NI
2CBC|COPTIC |CAPITAL LETTER CRYPTOGRAMMIC NI|SMALL LETTER CRYPTOGRAMMIC NI|CAPITAL LETTER OLD COPTIC OOU
2CBF|COPTIC |SMALL LETTER OLD COPTIC OOU|CAPITAL LETTER SAMPI|SMALL LETTER SAMPI|CAPITAL LETTER CROSSED SHEI
2CC3|COPTIC |SMALL LETTER CROSSED SHEI|CAPITAL LETTER OLD COPTIC SHEI|SMALL LETTER OLD COPTIC SHEI
2CC6|COPTIC |CAPITAL LETTER OLD COPTIC ESH|SMALL LETTER OLD COPTIC ESH|CAPITAL LETTER AKHMIMIC KHEI
2CC9|COPTIC |SMALL LETTER AKHMIMIC KHEI|CAPITAL LETTER DIALECT-P HORI|SMALL LETTER DIALECT-P HORI
2CCC|COPTIC |CAPITAL LETTER OLD COPTIC HORI|SMALL LETTER OLD COPTIC HORI|CAPITAL LETTER OLD COPTIC HA
2CCF|COPTIC |SMALL LETTER OLD COPTIC HA|CAPITAL LETTER L-SHAPED HA|SMALL LETTER L-SHAPED HA
2CD2|COPTIC |CAPITAL LETTER OLD COPTIC HEI|SMALL LETTER OLD COPTIC HEI|CAPITAL LETTER OLD COPTIC HAT
2CD5|COPTIC |SMALL LETTER OLD COPTIC HAT|CAPITAL LETTER OLD COPTIC GANGIA|SMALL LETTER OLD COPTIC GANGIA
2CD8|COPTIC |CAPITAL LETTER OLD COPTIC DJA|SMALL LETTER OLD COPTIC DJA|CAPITAL LETTER OLD COPTIC SHIMA
2CDB|COPTIC |SMALL LETTER OLD COPTIC SHIMA|CAPITAL LETTER OLD NUBIAN SHIMA|SMALL LETTER OLD NUBIAN SHIMA
2CDE|COPTIC |CAPITAL LETTER OLD NUBIAN NGI|SMALL LETTER OLD NUBIAN NGI|CAPITAL LETTER OLD NUBIAN NYI
2CE1|COPTIC |SMALL LETTER OLD NUBIAN NYI|CAPITAL LETTER OLD NUBIAN WAU|SMALL LETTER OLD NUBIAN WAU
2CE4|COPTIC SYMBOL |KAI|MI RO|PI RO|STAUROS|TAU RO|KHI RO|SHIMA SIMA
2CEB|COPTIC |CAPITAL LETTER CRYPTOGRAMMIC SHEI|SMALL LETTER CRYPTOGRAMMIC SHEI
2CED|COPTIC |CAPITAL LETTER CRYPTOGRAMMIC GANGIA|SMALL LETTER CRYPTOGRAMMIC GANGIA
2CEF|COPTIC COMBINING |NI ABOVE|SPIRITUS ASPER|SPIRITUS LENIS
2CF2|COPTIC |CAPITAL LETTER BOHAIRIC KHEI|SMALL LETTER BOHAIRIC KHEI
2CF9|COPTIC OLD NUBIAN |FULL STOP|DIRECT QUESTION MARK|INDIRECT QUESTION MARK|VERSE DIVIDER
2CFD|COPTIC |FRACTION ONE HALF|FULL STOP|MORPHOLOGICAL DIVIDER
2D00|GEORGIAN SMALL LETTER |AN|BAN|GAN|DON|EN|VIN|ZEN|TAN|IN|KAN|LAS|MAN|NAR|ON|PAR|ZHAR|RAE|SAN|TAR
2D13|GEORGIAN SMALL LETTER |UN|PHAR|KHAR|GHAN|QAR|SHIN|CHIN|CAN|JIL|CIL|CHAR|XAN|JHAN|HAE|HE|HIE|WE|HAR|HOE
2D27||GEORGIAN SMALL LETTER YN
2D2D||GEORGIAN SMALL LETTER AEN
2D30|TIFINAGH LETTER |YA|YAB|YABH|YAG|YAGHH|BERBER ACADEMY YAJ
2D36|TIFINAGH LETTER |YAJ|YAD|YADH|YADD|YADDH|YEY|YAF|YAK|TUAREG YAK|YAKHH|YAH|BERBER ACADEMY YAH
2D42|TIFINAGH LETTER |TUAREG YAH|YAHH|YAA|YAKH|TUAREG YAKH|YAQ|TUAREG YAQ|YI|YAZH|AHAGGAR YAZH
2D4C|TIFINAGH LETTER |TUAREG YAZH|YAL|YAM|YAN|TUAREG YAGN|TUAREG YANG|YAP|YU|YAR|YARR|YAGH|TUAREG YAGH
2D58|TIFINAGH LETTER |AYER YAGH|YAS|YASS|YASH|YAT|YATH|YACH|YATT|YAV|YAW|YAY|YAZ|TAWELLEMET YAZ|YAZZ|YE|YO
2D6F|TIFINAGH |MODIFIER LETTER LABIALIZATION MARK|SEPARATOR MARK
2D7F||TIFINAGH CONSONANT JOINER
2D80|ETHIOPIC SYLLABLE |LOA|MOA|ROA|SOA|SHOA|BOA
2D86|ETHIOPIC SYLLABLE |TOA|COA|NOA|NYOA|GLOTTAL OA|ZOA|DOA|DDOA|JOA|THOA|CHOA|PHOA|POA|GGWA|GGWI|GGWEE|GGWE
2DA0|ETHIOPIC SYLLABLE SS|A|U|I|AA|EE|E|O
2DA8|ETHIOPIC SYLLABLE CC|A|U|I|AA|EE|E|O
2DB0|ETHIOPIC SYLLABLE ZZ|A|U|I|AA|EE|E|O
2DB8|ETHIOPIC SYLLABLE CCH|A|U|I|AA|EE|E|O
2DC0|ETHIOPIC SYLLABLE QY|A|U|I|AA|EE|E|O
2DC8|ETHIOPIC SYLLABLE KY|A|U|I|AA|EE|E|O
2DD0|ETHIOPIC SYLLABLE XY|A|U|I|AA|EE|E|O
2DD8|ETHIOPIC SYLLABLE GY|A|U|I|AA|EE|E|O
2DE0||COMBINING CYRILLIC LETTER BE
2DE1|COMBINING CYRILLIC LETTER |VE|GHE|DE|ZHE|ZE|KA|EL|EM|EN|O|PE|ER|ES|TE|HA|TSE|CHE|SHA|SHCHA|FITA|ES-TE|A
2DF7|COMBINING CYRILLIC LETTER |IE|DJERV|MONOGRAPH UK|YAT|YU|IOTIFIED A|LITTLE YUS|BIG YUS|IOTIFIED BIG YUS
2E00|RIGHT ANGLE |SUBSTITUTION MARKER|DOTTED SUBSTITUTION MARKER
2E02||LEFT SUBSTITUTION BRACKET|RIGHT SUBSTITUTION BRACKET|LEFT DOTTED SUBSTITUTION BRACKET
2E05|R|IGHT DOTTED SUBSTITUTION BRACKET|AISED INTERPOLATION MARKER|AISED DOTTED INTERPOLATION MARKER
2E08||DOTTED TRANSPOSITION MARKER|LEFT TRANSPOSITION BRACKET
2E0A||RIGHT TRANSPOSITION BRACKET|RAISED SQUARE|LEFT RAISED OMISSION BRACKET|RIGHT RAISED OMISSION BRACKET
2E0E||EDITORIAL CORONIS|PARAGRAPHOS|FORKED PARAGRAPHOS|REVERSED FORKED PARAGRAPHOS
2E12||HYPODIASTOLE|DOTTED OBELOS|DOWNWARDS ANCORA|UPWARDS ANCORA
2E16||DOTTED RIGHT-POINTING ANGLE|DOUBLE OBLIQUE HYPHEN|INVERTED INTERROBANG|PALM BRANCH
2E1A||HYPHEN WITH DIAERESIS|TILDE WITH RING ABOVE|LEFT LOW PARAPHRASE BRACKET|RIGHT LOW PARAPHRASE BRACKET
2E1E|TILDE WITH DOT |ABOVE|BELOW
2E20||LEFT VERTICAL BAR WITH QUILL|RIGHT VERTICAL BAR WITH QUILL
2E22|TOP |LEFT HALF BRACKET|RIGHT HALF BRACKET
2E24||BOTTOM LEFT HALF BRACKET|BOTTOM RIGHT HALF BRACKET|LEFT SIDEWAYS U BRACKET|RIGHT SIDEWAYS U BRACKET
2E28||LEFT DOUBLE PARENTHESIS|RIGHT DOUBLE PARENTHESIS|TWO DOTS OVER ONE DOT PUNCTUATION
2E2B||ONE DOT OVER TWO DOTS PUNCTUATION|SQUARED FOUR DOT PUNCTUATION|FIVE DOT MARK
2E2E||REVERSED QUESTION MARK|VERTICAL TILDE|RING POINT|WORD SEPARATOR MIDDLE DOT
2E32||TURNED COMMA|RAISED DOT|RAISED COMMA|TURNED SEMICOLON
2E36|DAGGER WITH |LEFT GUARD|RIGHT GUARD
2E38||TURNED DAGGER|TOP HALF SECTION SIGN|TWO-EM DASH|THREE-EM DASH|STENOGRAPHIC FULL STOP
2E3D||VERTICAL SIX DOTS|WIGGLY VERTICAL LINE|CAPITULUM|DOUBLE HYPHEN
2E41||REVERSED COMMA|DOUBLE LOW-REVERSED-9 QUOTATION MARK|DASH WITH LEFT UPTURN|DOUBLE SUSPENSION MARK
2E45|INVERTED LOW KAVYKA|| WITH KAVYKA ABOVE
2E47|LOW KAVYKA|| WITH DOT
2E49||DOUBLE STACKED COMMA|DOTTED SOLIDUS|TRIPLE DAGGER
2E4C||MEDIEVAL COMMA|PARAGRAPHUS MARK|PUNCTUS ELEVATUS MARK|CORNISH VERSE DIVIDER
2E50|CROSS PATTY WITH |RIGHT CROSSBAR|LEFT CROSSBAR
2E52||TIRONIAN SIGN CAPITAL ET
2E53|MEDIEVAL |EXCLAMATION MARK|QUESTION MARK
2E55||LEFT SQUARE BRACKET WITH STROKE|RIGHT SQUARE BRACKET WITH STROKE
2E57||LEFT SQUARE BRACKET WITH DOUBLE STROKE|RIGHT SQUARE BRACKET WITH DOUBLE STROKE
2E59|TOP HALF |LEFT PARENTHESIS|RIGHT PARENTHESIS
2E5B|BOTTOM HALF |LEFT PARENTHESIS|RIGHT PARENTHESIS
2E5D||OBLIQUE HYPHEN
2E80|CJK RADICAL |REPEAT|CLIFF|SECOND ONE|SECOND TWO|SECOND THREE
2E85|CJK RADICAL |PERSON|BOX|TABLE|KNIFE ONE|KNIFE TWO|DIVINATION|SEAL|SMALL ONE|SMALL TWO|LAME ONE|LAME TWO
2E90|CJK RADICAL |LAME THREE|LAME FOUR|SNAKE|THREAD|SNOUT ONE|SNOUT TWO|HEART ONE|HEART TWO|HAND|RAP
2E9B|CJK RADICAL |CHOKE|SUN|MOON|DEATH|MOTHER|CIVILIAN|WATER ONE|WATER TWO|FIRE|PAW ONE
2EA5|CJK RADICAL |PAW TWO|SIMPLIFIED HALF TREE TRUNK|COW|DOG|JADE|BOLT OF CLOTH|EYE|SPIRIT ONE|SPIRIT TWO
2EAE|CJK RADICAL |BAMBOO|SILK|C-SIMPLIFIED SILK|NET ONE|NET TWO|NET THREE|NET FOUR|MESH|SHEEP|RAM|EWE
2EB9|CJK RADICAL |OLD|BRUSH ONE|BRUSH TWO|MEAT|MORTAR|GRASS ONE|GRASS TWO|GRASS THREE|TIGER|CLOTHES|WEST ONE
2EC4|CJK RADICAL |WEST TWO|C-SIMPLIFIED SEE|SIMPLIFIED HORN|HORN|C-SIMPLIFIED SPEECH|C-SIMPLIFIED SHELL
2ECA|CJK RADICAL |FOOT|C-SIMPLIFIED CART|SIMPLIFIED WALK|WALK ONE|WALK TWO|CITY|C-SIMPLIFIED GOLD
2ED1|CJK RADICAL |LONG ONE|LONG TWO|C-SIMPLIFIED LONG|C-SIMPLIFIED GATE|MOUND ONE|MOUND TWO|RAIN|BLUE
2ED9|CJK RADICAL C-SIMPLIFIED |TANNED LEATHER|LEAF|WIND|FLY
2EDD|CJK RADICAL |EAT ONE|EAT TWO|EAT THREE|C-SIMPLIFIED EAT|HEAD|C-SIMPLIFIED HORSE|BONE|GHOST
2EE5|CJK RADICAL C-SIMPLIFIED |FISH|BIRD|SALT
2EE8|CJK RADICAL |SIMPLIFIED WHEAT|SIMPLIFIED YELLOW|C-SIMPLIFIED FROG
2EEB|CJK RADICAL |J-SIMPLIFIED EVEN|C-SIMPLIFIED EVEN|J-SIMPLIFIED TOOTH|C-SIMPLIFIED TOOTH
2EEF|CJK RADICAL |J-SIMPLIFIED DRAGON|C-SIMPLIFIED DRAGON|TURTLE|J-SIMPLIFIED TURTLE|C-SIMPLIFIED TURTLE
2F00|KANGXI RADICAL |ONE|LINE|DOT|SLASH|SECOND|HOOK|TWO|LID|MAN|LEGS|ENTER|EIGHT|DOWN BOX|COVER|ICE|TABLE
2F10|KANGXI RADICAL |OPEN BOX|KNIFE|POWER|WRAP|SPOON|RIGHT OPEN BOX|HIDING ENCLOSURE|TEN|DIVINATION|SEAL
2F1A|KANGXI RADICAL |CLIFF|PRIVATE|AGAIN|MOUTH|ENCLOSURE|EARTH|SCHOLAR|GO|GO SLOWLY|EVENING|BIG|WOMAN|CHILD
2F27|KANGXI RADICAL |ROOF|INCH|SMALL|LAME|CORPSE|SPROUT|MOUNTAIN|RIVER|WORK|ONESELF|TURBAN|DRY|SHORT THREAD
2F34|KANGXI RADICAL |DOTTED CLIFF|LONG STRIDE|TWO HANDS|SHOOT|BOW|SNOUT|BRISTLE|STEP|HEART|HALBERD
2F3E|KANGXI RADICAL |DOOR|HAND|BRANCH|RAP|SCRIPT|DIPPER|AXE|SQUARE|NOT|SUN|SAY|MOON|TREE|LACK|STOP|DEATH
2F4E|KANGXI RADICAL |WEAPON|DO NOT|COMPARE|FUR|CLAN|STEAM|WATER|FIRE|CLAW|FATHER|DOUBLE X|HALF TREE TRUNK
2F5A|KANGXI RADICAL |SLICE|FANG|COW|DOG|PROFOUND|JADE|MELON|TILE|SWEET|LIFE|USE|FIELD|BOLT OF CLOTH|SICKNESS
2F68|KANGXI RADICAL |DOTTED TENT|WHITE|SKIN|DISH|EYE|SPEAR|ARROW|STONE|SPIRIT|TRACK|GRAIN|CAVE|STAND|BAMBOO
2F76|KANGXI RADICAL |RICE|SILK|JAR|NET|SHEEP|FEATHER|OLD|AND|PLOW|EAR|BRUSH|MEAT|MINISTER|SELF|ARRIVE|MORTAR
2F86|KANGXI RADICAL |TONGUE|OPPOSE|BOAT|STOPPING|COLOR|GRASS|TIGER|INSECT|BLOOD|WALK ENCLOSURE|CLOTHES
2F91|KANGXI RADICAL |WEST|SEE|HORN|SPEECH|VALLEY|BEAN|PIG|BADGER|SHELL|RED|RUN|FOOT|BODY|CART|BITTER|MORNING
2FA1|KANGXI RADICAL |WALK|CITY|WINE|DISTINGUISH|VILLAGE|GOLD|LONG|GATE|MOUND|SLAVE|SHORT TAILED BIRD|RAIN
2FAD|KANGXI RADICAL |BLUE|WRONG|FACE|LEATHER|TANNED LEATHER|LEEK|SOUND|LEAF|WIND|FLY|EAT|HEAD|FRAGRANT|HORSE
2FBB|KANGXI RADICAL |BONE|TALL|HAIR|FIGHT|SACRIFICIAL WINE|CAULDRON|GHOST|FISH|BIRD|SALT|DEER|WHEAT|HEMP
2FC8|KANGXI RADICAL |YELLOW|MILLET|BLACK|EMBROIDERY|FROG|TRIPOD|DRUM|RAT|NOSE|EVEN|TOOTH|DRAGON|TURTLE|FLUTE
2FF0|IDEOGRAPHIC DESCRIPTION CHARACTER |LEFT TO RIGHT|ABOVE TO BELOW
2FF2|IDEOGRAPHIC DESCRIPTION CHARACTER |LEFT TO MIDDLE AND RIGHT|ABOVE TO MIDDLE AND BELOW|FULL SURROUND
2FF5|IDEOGRAPHIC DESCRIPTION CHARACTER SURROUND FROM |ABOVE|BELOW|LEFT|UPPER LEFT|UPPER RIGHT|LOWER LEFT
2FFB||IDEOGRAPHIC DESCRIPTION CHARACTER OVERLAID"

end GraphGateway.Text.CharacterName
