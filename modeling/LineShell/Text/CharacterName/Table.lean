/-!
Names of characters as the Unicode standard gives them (version 14), with their aliases: all but
the names of ideographs and syllables that follow from a rule.
-/

namespace LineShell.Text

/-- Names of characters by their first letters, in the order of their words and between blanks. Each
starts with the number of words that it has in common with the name before it, a digit or a letter
for ten and more. The words in which it differs follow, with underscores between them. -/
def characterNameTables : List (Char × String) :=
  [ ('A', "
    0ABACUS 0AC_CURRENT 0ACCORDION 0ACCOUNT_OF 0ACK 0ACKNOWLEDGE 0ACTIVATE_ARABIC_FORM_SHAPING
    1SYMMETRIC_SWAPPING 0ACUTE_ACCENT 1ANGLE 0ADDRESSED_TO_THE_SUBJECT 0ADHESIVE_BANDAGE 0ADI_SHAKTI
    0ADLAM_ALIF_LENGTHENER 1CAPITAL_LETTER_ALIF 3BA 3BHE 3CHI 3DAALI 3DHA 3E 3FA 3GA 3GBE 3HA 3I
    3JIIM 3KAF 3KHA 3KPO 3LAAM 3MIIM 3NHA 3NUN 3NYA 3O 3PE 3QAAF 3RA 3SHA 3SINNYIIYHE 3TU 3U 3VA
    3WAW 3YA 3YHE 3ZAL 1CONSONANT_MODIFIER 1DIGIT_EIGHT 2FIVE 2FOUR 2NINE 2ONE 2SEVEN 2SIX 2THREE
    2TWO 2ZERO 1GEMINATE_CONSONANT_MODIFIER 1GEMINATION_MARK 1HAMZA 1INITIAL_EXCLAMATION_MARK
    2QUESTION_MARK 1NASALIZATION_MARK 1NUKTA 1SMALL_LETTER_ALIF 3BA 3BHE 3CHI 3DAALI 3DHA 3E 3FA 3GA
    3GBE 3HA 3I 3JIIM 3KAF 3KHA 3KPO 3LAAM 3MIIM 3NHA 3NUN 3NYA 3O 3PE 3QAAF 3RA 3SHA 3SINNYIIYHE
    3TU 3U 3VA 3WAW 3YA 3YHE 3ZAL 1VOWEL_LENGTHENER 0ADMETOS 0ADMISSION_TICKETS 0ADULT
    0AEGEAN_CHECK_MARK 1DRY_MEASURE_FIRST_SUBUNIT 1LIQUID_MEASURE_FIRST_SUBUNIT
    1MEASURE_SECOND_SUBUNIT 2THIRD_SUBUNIT 1NUMBER_EIGHT 3HUNDRED 3THOUSAND 2EIGHTY 3THOUSAND 2FIFTY
    3THOUSAND 2FIVE 3HUNDRED 3THOUSAND 2FORTY 3THOUSAND 2FOUR 3HUNDRED 3THOUSAND 2NINE 3HUNDRED
    3THOUSAND 2NINETY 3THOUSAND 2ONE 3HUNDRED 3THOUSAND 2SEVEN 3HUNDRED 3THOUSAND 2SEVENTY 3THOUSAND
    2SIX 3HUNDRED 3THOUSAND 2SIXTY 3THOUSAND 2TEN 3THOUSAND 2THIRTY 3THOUSAND 2THREE 3HUNDRED
    3THOUSAND 2TWENTY 3THOUSAND 2TWO 3HUNDRED 3THOUSAND 1WEIGHT_BASE_UNIT 2FIRST_SUBUNIT
    2FOURTH_SUBUNIT 2SECOND_SUBUNIT 2THIRD_SUBUNIT 1WORD_SEPARATOR_DOT 3LINE 0AERIAL_TRAMWAY
    0AFGHANI_SIGN 0AHOM_CONSONANT_SIGN_MEDIAL_LA 4LIGATING_RA 4RA 1DIGIT_EIGHT 2FIVE 2FOUR 2NINE
    2ONE 2SEVEN 2SIX 2THREE 2TWO 2ZERO 1LETTER_A 2ALTERNATE_BA 3GA 3TA 2BA 2BHA 2CA 2CHA 2DA 2DDA
    2DDHA 2DHA 2GA 2GHA 2HA 2JA 2JHA 2KA 2KHA 2LA 2LLA 2MA 2NA 2NGA 2NNA 2NYA 2PA 2PHA 2RA 2SA 2TA
    2THA 2TTA 2TTHA 1NUMBER_TEN 2TWENTY 1SIGN_KILLER 2RULAI 2SECTION 2SMALL_SECTION 1SYMBOL_VI
    1VOWEL_SIGN_A 3AA 3AI 3AM 3AW 3E 3I 3II 3O 3U 3UU 0AIRPLANE 1ARRIVING 1DEPARTURE 0AKTIESELSKAB
    0ALARM_CLOCK 0ALCHEMICAL_SYMBOL_FOR_AIR 3ALEMBIC 3ALKALI 3ALKALI-2 3ALUM 3AMALGAM 3ANTIMONY_ORE
    3AQUA_REGIA 4REGIA-2 4VITAE 4VITAE-2 3AQUAFORTIS 3ARSENIC 3ASHES 3AURIPIGMENT 3BATH_OF_MARY
    5VAPOURS 3BISMUTH_ORE 3BLACK_SULFUR 3BORAX 3BORAX-2 3BORAX-3 3BRICK 3CADUCEUS 3CALX
    3CAPUT_MORTUUM 3CINNABAR 3COPPER_ANTIMONIATE 4ORE 3CROCUS_OF_COPPER 5COPPER-2 5IRON 3CRUCIBLE
    3CRUCIBLE-2 3CRUCIBLE-3 3CRUCIBLE-4 3CRUCIBLE-5 3DAY-NIGHT 3DISSOLVE 3DISSOLVE-2 3DISTILL 3EARTH
    3FIRE 3GOLD 3GUM 3HALF_DRAM 4OUNCE 3HORSE_DUNG 3HOUR 3IRON_ORE 4ORE-2 3IRON-COPPER_ORE 3LEAD_ORE
    3LODESTONE 3MARCASITE 3MERCURY_SUBLIMATE 4SUBLIMATE-2 4SUBLIMATE-3 3MONTH 3NIGHT 3NITRE 3OIL
    3PHILOSOPHERS_SULFUR 3POT_ASHES 3POWDER 3POWDERED_BRICK 3PRECIPITATE 3PURIFY 3PUTREFACTION
    3QUICK_LIME 3QUINTESSENCE 3REALGAR 3REALGAR-2 3REGULUS 4OF_ANTIMONY 5ANTIMONY-2 5IRON 3REGULUS-2
    3REGULUS-3 3REGULUS-4 3RETORT 3ROCK_SALT 4SALT-2 3SAL-AMMONIAC 3SALT 4OF_ANTIMONY
    5COPPER_ANTIMONIATE 3SCEPTER_OF_JOVE 3SILVER 3SOAP 3SPIRIT 3STARRED_TRIDENT
    3STRATUM_SUPER_STRATUM 5STRATUM-2 3SUBLIMATE_OF_ANTIMONY 5COPPER 5SALT_OF_ANTIMONY 7COPPER
    3SUBLIMATION 3SULFUR 3TARTAR 3TARTAR-2 3TIN_ORE 3TINCTURE 3TRIDENT 3TUTTY 3URINE 3VERDIGRIS
    3VINEGAR 4OF_ANTIMONY 3VINEGAR-2 3VINEGAR-3 3VITRIOL 3VITRIOL-2 3WATER 3WAX 0ALEF_SYMBOL
    0ALEMBIC 0ALERT 0ALIEN_MONSTER 0ALL_AROUND-PROFILE 1EQUAL_TO 0ALM 0ALMOST_EQUAL_OR_EQUAL_TO 2TO
    3WITH_CIRCUMFLEX_ACCENT 0ALTERNATE_ONE-WAY_LEFT_WAY_TRAFFIC 0ALTERNATIVE_KEY_SYMBOL
    0AMALGAMATION_OR_COPRODUCT 0AMBULANCE 0AMERICAN_FOOTBALL 0AMPERSAND 0AMPHORA
    0ANATOLIAN_HIEROGLYPH_A001 2A002 2A003 2A004 2A005 2A006 2A007 2A008 2A009 2A010 2A010A 2A011
    2A012 2A013 2A014 2A015 2A016 2A017 2A018 2A019 2A020 2A021 2A022 2A023 2A024 2A025 2A026 2A026A
    2A027 2A028 2A029 2A030 2A031 2A032 2A033 2A034 2A035 2A036 2A037 2A038 2A039 2A039A 2A040 2A041
    2A041A 2A042 2A043 2A044 2A045 2A045A 2A046 2A046A 2A046B 2A047 2A048 2A049 2A050 2A051 2A052
    2A053 2A054 2A055 2A056 2A057 2A058 2A059 2A060 2A061 2A062 2A063 2A064 2A065 2A066 2A066A
    2A066B 2A066C 2A067 2A068 2A069 2A070 2A071 2A072 2A073 2A074 2A075 2A076 2A077 2A078 2A079
    2A080 2A081 2A082 2A083 2A084 2A085 2A086 2A087 2A088 2A089 2A090 2A091 2A092 2A093 2A094 2A095
    2A096 2A097 2A097A 2A098 2A098A 2A099 2A100 2A100A 2A101 2A101A 2A102 2A102A 2A103 2A104 2A104A
    2A104B 2A104C 2A105 2A105A 2A105B 2A106 2A107 2A107A 2A107B 2A107C 2A108 2A109 2A110 2A110A
    2A110B 2A111 2A112 2A113 2A114 2A115 2A115A 2A116 2A117 2A118 2A119 2A120 2A121 2A122 2A123
    2A124 2A125 2A125A 2A126 2A127 2A128 2A129 2A130 2A131 2A132 2A133 2A134 2A135 2A135A 2A136
    2A137 2A138 2A139 2A140 2A141 2A142 2A143 2A144 2A145 2A146 2A147 2A148 2A149 2A150 2A151 2A152
    2A153 2A154 2A155 2A156 2A157 2A158 2A159 2A160 2A161 2A162 2A163 2A164 2A165 2A166 2A167 2A168
    2A169 2A170 2A171 2A172 2A173 2A174 2A175 2A176 2A177 2A178 2A179 2A180 2A181 2A182 2A183 2A184
    2A185 2A186 2A187 2A188 2A189 2A190 2A191 2A192 2A193 2A194 2A195 2A196 2A197 2A198 2A199 2A200
    2A201 2A202 2A202A 2A202B 2A203 2A204 2A205 2A206 2A207 2A207A 2A208 2A209 2A209A 2A210 2A211
    2A212 2A213 2A214 2A215 2A215A 2A216 2A216A 2A217 2A218 2A219 2A220 2A221 2A222 2A223 2A224
    2A225 2A226 2A227 2A227A 2A228 2A229 2A230 2A231 2A232 2A233 2A234 2A235 2A236 2A237 2A238 2A239
    2A240 2A241 2A242 2A243 2A244 2A245 2A246 2A247 2A248 2A249 2A250 2A251 2A252 2A253 2A254 2A255
    2A256 2A257 2A258 2A259 2A260 2A261 2A262 2A263 2A264 2A265 2A266 2A267 2A267A 2A268 2A269 2A270
    2A271 2A272 2A273 2A274 2A275 2A276 2A277 2A278 2A279 2A280 2A281 2A282 2A283 2A284 2A285 2A286
    2A287 2A288 2A289 2A289A 2A290 2A291 2A292 2A293 2A294 2A294A 2A295 2A296 2A297 2A298 2A299
    2A299A 2A300 2A301 2A302 2A303 2A304 2A305 2A306 2A307 2A308 2A309 2A309A 2A310 2A311 2A312
    2A313 2A314 2A315 2A316 2A317 2A318 2A319 2A320 2A321 2A322 2A323 2A324 2A325 2A326 2A327 2A328
    2A329 2A329A 2A330 2A331 2A332A 2A332B 2A332C 2A333 2A334 2A335 2A336 2A336A 2A336B 2A336C 2A337
    2A338 2A339 2A340 2A341 2A342 2A343 2A344 2A345 2A346 2A347 2A348 2A349 2A350 2A351 2A352 2A353
    2A354 2A355 2A356 2A357 2A358 2A359 2A359A 2A360 2A361 2A362 2A363 2A364 2A364A 2A365 2A366
    2A367 2A368 2A368A 2A369 2A370 2A371 2A371A 2A372 2A373 2A374 2A375 2A376 2A377 2A378 2A379
    2A380 2A381 2A381A 2A382 2A383_RA_OR_RI 2A383A 2A384 2A385 2A386 2A386A 2A387 2A388 2A389 2A390
    2A391 2A392 2A393_EIGHT 2A394 2A395 2A396 2A397 2A398 2A399 2A400 2A401 2A402 2A403 2A404 2A405
    2A406 2A407 2A408 2A409 2A410_BEGIN_LOGOGRAM_MARK 2A410A_END_LOGOGRAM_MARK 2A411 2A412 2A413
    2A414 2A415 2A416 2A417 2A418 2A419 2A420 2A421 2A422 2A423 2A424 2A425 2A426 2A427 2A428 2A429
    2A430 2A431 2A432 2A433 2A434 2A435 2A436 2A437 2A438 2A439 2A440 2A441 2A442 2A443 2A444 2A445
    2A446 2A447 2A448 2A449 2A450 2A450A 2A451 2A452 2A453 2A454 2A455 2A456 2A457 2A457A 2A458
    2A459 2A460 2A461 2A462 2A463 2A464 2A465 2A466 2A467 2A468 2A469 2A470 2A471 2A472 2A473 2A474
    2A475 2A476 2A477 2A478 2A479 2A480 2A481 2A482 2A483 2A484 2A485 2A486 2A487 2A488 2A489 2A490
    2A491 2A492 2A493 2A494 2A495 2A496 2A497 2A501 2A502 2A503 2A504 2A505 2A506 2A507 2A508 2A509
    2A510 2A511 2A512 2A513 2A514 2A515 2A516 2A517 2A518 2A519 2A520 2A521 2A522 2A523 2A524 2A525
    2A526 2A527 2A528 2A529 2A530 0ANATOMICAL_HEART 0ANCHOR 0AND_WITH_DOT 0ANGER_SYMBOL 0ANGLE
    1WITH_S_INSIDE 2UNDERBAR 0ANGRY_FACE 0ANGSTROM_SIGN 0ANGUISHED_FACE 0ANKH 0ANT
    0ANTENNA_WITH_BARS 0ANTICLOCKWISE_CLOSED_CIRCLE_ARROW 1CONTOUR_INTEGRAL
    1DOWNWARDS_AND_UPWARDS_OPEN_CIRCLE_ARROWS 1GAPPED_CIRCLE_ARROW 1INTEGRATION 1OPEN_CIRCLE_ARROW
    1TOP_SEMICIRCLE_ARROW 1TRIANGLE-HEADED_BOTTOM_U-SHAPED_ARROW 2LEFT_U-SHAPED_ARROW
    2OPEN_CIRCLE_ARROW 2RIGHT_U-SHAPED_ARROW 2TOP_U-SHAPED_ARROW 0APC 0APL_FUNCTIONAL_SYMBOL_ALPHA
    4UNDERBAR 3BACKSLASH_BAR 3CIRCLE_BACKSLASH 4DIAERESIS 4JOT 4STAR 4STILE 4UNDERBAR 3COMMA_BAR
    3DEL_DIAERESIS 4STILE 4TILDE 3DELTA_STILE 4UNDERBAR 3DIAMOND_UNDERBAR 3DOWN_CARET_TILDE
    4SHOE_STILE 4TACK_JOT 5UNDERBAR 3DOWNWARDS_VANE 3EPSILON_UNDERBAR 3GREATER-THAN_DIAERESIS
    3I-BEAM 3IOTA 4UNDERBAR 3JOT_DIAERESIS 4UNDERBAR 3LEFT_SHOE_STILE 3LEFTWARDS_VANE 3OMEGA
    4UNDERBAR 3QUAD 4BACKSLASH 4CIRCLE 4COLON 4DEL 4DELTA 4DIAMOND 4DIVIDE 4DOWN_CARET
    4DOWNWARDS_ARROW 4EQUAL 4GREATER-THAN 4JOT 4LEFTWARDS_ARROW 4LESS-THAN 4NOT_EQUAL 4QUESTION
    4RIGHTWARDS_ARROW 4SLASH 4UP_CARET 4UPWARDS_ARROW 3QUOTE_QUAD 4UNDERBAR 3RHO 3RIGHTWARDS_VANE
    3SEMICOLON_UNDERBAR 3SLASH_BAR 3SQUISH_QUAD 3STAR_DIAERESIS 3STILE_TILDE 3TILDE_DIAERESIS
    3UP_CARET_TILDE 4SHOE_JOT 4TACK_DIAERESIS 5JOT 5OVERBAR 3UPWARDS_VANE 3ZILDE 0APOLLON
    0APOSTROPHE 0APPLICATION_PROGRAM_COMMAND 0APPROACHES_THE_LIMIT
    0APPROXIMATELY_BUT_NOT_ACTUALLY_EQUAL_TO 1EQUAL_OR_EQUAL_TO 2TO 3OR_THE_IMAGE_OF 0AQUARIUS
    0ARABIC_BASELINE_ROUND_DOT 1COMMA 1CURLY_DAMMA 2DAMMATAN 2FATHA 2FATHATAN 2KASRA 2KASRATAN
    1DAMMA 2ISOLATED_FORM 2MEDIAL_FORM 2WITH_DOT 1DAMMATAN 2ISOLATED_FORM 1DATE_SEPARATOR
    1DECIMAL_SEPARATOR 1DISPUTED_END_OF_AYAH 1DOUBLE_RIGHT_ARROWHEAD_ABOVE 5WITH_DOT 1DOUBLED_MADDA
    1EMPTY_CENTRE_HIGH_STOP 3LOW_STOP 1END_OF_AYAH 3TEXT_MARK 1FATHA 2ISOLATED_FORM 2MEDIAL_FORM
    2WITH_DOT_ABOVE 3RING 3TWO_DOTS 1FATHATAN 2ISOLATED_FORM 1FIVE_POINTED_STAR 1FOOTNOTE_MARKER
    1FULL_STOP 1HALF_MADDA_OVER_MADDA 1HAMZA_ABOVE 2BELOW 1INVERTED_DAMMA 1KASRA 2ISOLATED_FORM
    2MEDIAL_FORM 2WITH_DOT_BELOW 1KASRATAN 2ISOLATED_FORM 1LARGE_CIRCLE_BELOW 2ROUND_DOT_ABOVE
    4BELOW 4INSIDE_CIRCLE_BELOW 1LEFT_ARROWHEAD_ABOVE 3BELOW 1LETTER_AE 2AFRICAN_FEH 3NOON 3QAF
    4WITH_THREE_DOTS_ABOVE 2AIN 3FINAL_FORM 3INITIAL_FORM 3ISOLATED_FORM 3MEDIAL_FORM
    3WITH_THREE_DOTS_ABOVE 6BELOW 6POINTING_DOWNWARDS_ABOVE 4TWO_DOTS_ABOVE 6VERTICALLY_ABOVE 2ALEF
    3FINAL_FORM 3ISOLATED_FORM 3MAKSURA 4FINAL_FORM 4ISOLATED_FORM 3WASLA 4FINAL_FORM 4ISOLATED_FORM
    3WITH_ATTACHED_BOTTOM_RIGHT_KASRA 8AND_DOT_ABOVE 9LEFT_RING 5FATHA 5KASRA 5LEFT_HAMZA 6ROUND_DOT
    5RIGHT_HAMZA 6ROUND_DOT 5ROUND_DOT_ABOVE 7BELOW 5TOP_RIGHT_FATHA 8AND_DOT_ABOVE 9LEFT_RING
    4DOT_ABOVE 4EXTENDED_ARABIC-INDIC_DIGIT_THREE_ABOVE 7TWO_ABOVE 4HAMZA_ABOVE 6FINAL_FORM
    6ISOLATED_FORM 5BELOW 6FINAL_FORM 6ISOLATED_FORM 4LEFT_MIDDLE_STROKE 4MADDA_ABOVE 6FINAL_FORM
    6ISOLATED_FORM 4RIGHT_MIDDLE_STROKE 7AND_DOT_ABOVE 8LEFT_RING 4WAVY_HAMZA_ABOVE 6BELOW 2BEEH
    3FINAL_FORM 3INITIAL_FORM 3ISOLATED_FORM 3MEDIAL_FORM 2BEH 3FINAL_FORM 3INITIAL_FORM
    3ISOLATED_FORM 3MEDIAL_FORM 3WITH_DOT_BELOW_AND_THREE_DOTS_ABOVE 4HAMZA_ABOVE
    4INVERTED_SMALL_V_BELOW 4SMALL_MEEM_ABOVE 5V 6BELOW 4THREE_DOTS_HORIZONTALLY_BELOW
    6POINTING_UPWARDS_BELOW 9AND_TWO_DOTS_ABOVE 4TWO_DOTS_BELOW_AND_DOT_ABOVE 2BEHEH 3FINAL_FORM
    3INITIAL_FORM 3ISOLATED_FORM 3MEDIAL_FORM 2DAD 3FINAL_FORM 3INITIAL_FORM 3ISOLATED_FORM
    3MEDIAL_FORM 3WITH_DOT_BELOW 2DAHAL 3FINAL_FORM 3ISOLATED_FORM 2DAL 3FINAL_FORM 3ISOLATED_FORM
    3WITH_DOT_BELOW 6AND_SMALL_TAH 4FOUR_DOTS_ABOVE 4INVERTED_SMALL_V_BELOW 5V 4RING
    4THREE_DOTS_ABOVE_DOWNWARDS 6BELOW 4TWO_DOTS_VERTICALLY_BELOW_AND_SMALL_TAH 2DDAHAL 3FINAL_FORM
    3ISOLATED_FORM 2DDAL 3FINAL_FORM 3ISOLATED_FORM 2DOTLESS_BEH 3FEH 3QAF 2DUL 3FINAL_FORM
    3ISOLATED_FORM 2DYEH 3FINAL_FORM 3INITIAL_FORM 3ISOLATED_FORM 3MEDIAL_FORM 2E 3FINAL_FORM
    3INITIAL_FORM 3ISOLATED_FORM 3MEDIAL_FORM 2FARSI_YEH 4FINAL_FORM 4INITIAL_FORM 4ISOLATED_FORM
    4MEDIAL_FORM 4WITH_EXTENDED_ARABIC-INDIC_DIGIT_FOUR_BELOW 8THREE_ABOVE 8TWO_ABOVE 5INVERTED_V
    5THREE_DOTS_ABOVE 5TWO_DOTS_ABOVE 2FEH 3FINAL_FORM 3INITIAL_FORM 3ISOLATED_FORM 3MEDIAL_FORM
    3WITH_DOT_BELOW 6AND_THREE_DOTS_ABOVE 5MOVED_BELOW 4THREE_DOTS_BELOW 6POINTING_UPWARDS_BELOW
    4TWO_DOTS_BELOW 2GAF 3FINAL_FORM 3INITIAL_FORM 3ISOLATED_FORM 3MEDIAL_FORM 3WITH_INVERTED_STROKE
    4RING 4THREE_DOTS_ABOVE 4TWO_DOTS_BELOW 2GHAIN 3FINAL_FORM 3INITIAL_FORM 3ISOLATED_FORM
    3MEDIAL_FORM 3WITH_DOT_BELOW 4THREE_DOTS_ABOVE 2GRAF 2GUEH 3FINAL_FORM 3INITIAL_FORM
    3ISOLATED_FORM 3MEDIAL_FORM 2HAH 3FINAL_FORM 3INITIAL_FORM 3ISOLATED_FORM 3MEDIAL_FORM
    3WITH_EXTENDED_ARABIC-INDIC_DIGIT_FOUR_BELOW 4HAMZA_ABOVE 4INVERTED_SMALL_V_BELOW
    4SMALL_ARABIC_LETTER_TAH_ABOVE 8AND_TWO_DOTS 8BELOW 4THREE_DOTS_ABOVE 6POINTING_UPWARDS_BELOW
    4TWO_DOTS_ABOVE 6VERTICAL_ABOVE 2HAMZA 3ISOLATED_FORM 2HEH 3DOACHASHMEE 4FINAL_FORM
    4INITIAL_FORM 4ISOLATED_FORM 4MEDIAL_FORM 3FINAL_FORM 3GOAL 4FINAL_FORM 4INITIAL_FORM
    4ISOLATED_FORM 4MEDIAL_FORM 4WITH_HAMZA_ABOVE 3INITIAL_FORM 3ISOLATED_FORM 3MEDIAL_FORM
    3WITH_INVERTED_V 4YEH_ABOVE 6FINAL_FORM 6ISOLATED_FORM 2HIGH_HAMZA 4ALEF 4WAW 4YEH 2JEEM
    3FINAL_FORM 3INITIAL_FORM 3ISOLATED_FORM 3MEDIAL_FORM 3WITH_THREE_DOTS_ABOVE 6BELOW
    4TWO_DOTS_ABOVE 2JEH 3FINAL_FORM 3ISOLATED_FORM 2KAF 3FINAL_FORM 3INITIAL_FORM 3ISOLATED_FORM
    3MEDIAL_FORM 3WITH_DOT_ABOVE 5BELOW 4RING 4THREE_DOTS_BELOW 4TWO_DOTS_ABOVE 2KASHMIRI_YEH 2KEHEH
    3FINAL_FORM 3INITIAL_FORM 3ISOLATED_FORM 3MEDIAL_FORM 3WITH_DOT_ABOVE 4SMALL_V 4THREE_DOTS_ABOVE
    6BELOW 6POINTING_UPWARDS_BELOW 4TWO_DOTS_ABOVE 6VERTICALLY_BELOW 2KHAH 3FINAL_FORM 3INITIAL_FORM
    3ISOLATED_FORM 3MEDIAL_FORM 2KIRGHIZ_OE 4FINAL_FORM 4ISOLATED_FORM 3YU 4FINAL_FORM
    4ISOLATED_FORM 2LAM 3FINAL_FORM 3INITIAL_FORM 3ISOLATED_FORM 3MEDIAL_FORM 3WITH_BAR 4DOT_ABOVE
    4DOUBLE_BAR 4SMALL_ARABIC_LETTER_TAH_ABOVE 5V 4THREE_DOTS_ABOVE 6BELOW 2LOW_ALEF 2MARK 2MEEM
    3FINAL_FORM 3INITIAL_FORM 3ISOLATED_FORM 3MEDIAL_FORM 3WITH_DOT_ABOVE 5BELOW 4THREE_DOTS_ABOVE
    2NG 3FINAL_FORM 3INITIAL_FORM 3ISOLATED_FORM 3MEDIAL_FORM 2NGOEH 3FINAL_FORM 3INITIAL_FORM
    3ISOLATED_FORM 3MEDIAL_FORM 2NOON 3FINAL_FORM 3GHUNNA 4FINAL_FORM 4ISOLATED_FORM 3INITIAL_FORM
    3ISOLATED_FORM 3MEDIAL_FORM 3WITH_DOT_BELOW 4INVERTED_SMALL_V 4RING 4SMALL_TAH 5V
    4THREE_DOTS_ABOVE 4TWO_DOTS_BELOW 2NYEH 3FINAL_FORM 3INITIAL_FORM 3ISOLATED_FORM 3MEDIAL_FORM
    2OE 3FINAL_FORM 3ISOLATED_FORM 2PEH 3FINAL_FORM 3INITIAL_FORM 3ISOLATED_FORM 3MEDIAL_FORM
    3WITH_SMALL_MEEM_ABOVE 5V 2PEHEH 3FINAL_FORM 3INITIAL_FORM 3ISOLATED_FORM 3MEDIAL_FORM 2QAF
    3FINAL_FORM 3INITIAL_FORM 3ISOLATED_FORM 3MEDIAL_FORM 3WITH_DOT_ABOVE 5BELOW 6AND_NO_DOTS_ABOVE
    4THREE_DOTS_ABOVE 2REH 3FINAL_FORM 3ISOLATED_FORM 3WITH_DOT_BELOW 6AND_DOT_ABOVE
    4FOUR_DOTS_ABOVE 4HAMZA_ABOVE 4INVERTED_V 4LOOP 4RING 4SMALL_ARABIC_LETTER_TAH_AND_TWO_DOTS
    5NOON_ABOVE 5V 6BELOW 4STROKE 4TWO_DOTS_ABOVE 6VERTICALLY_ABOVE 2RNOON 3FINAL_FORM 3INITIAL_FORM
    3ISOLATED_FORM 3MEDIAL_FORM 2ROHINGYA_YEH 2RREH 3FINAL_FORM 3ISOLATED_FORM 2SAD 3FINAL_FORM
    3INITIAL_FORM 3ISOLATED_FORM 3MEDIAL_FORM 3WITH_THREE_DOTS_ABOVE 6BELOW 4TWO_DOTS_BELOW 2SEEN
    3FINAL_FORM 3INITIAL_FORM 3ISOLATED_FORM 3MEDIAL_FORM 3WITH_DOT_BELOW_AND_DOT_ABOVE
    4EXTENDED_ARABIC-INDIC_DIGIT_FOUR_ABOVE 4FOUR_DOTS_ABOVE 4INVERTED_V
    4SMALL_ARABIC_LETTER_TAH_AND_TWO_DOTS 4THREE_DOTS_BELOW 7AND_THREE_DOTS_ABOVE
    4TWO_DOTS_VERTICALLY_ABOVE 2SHEEN 3FINAL_FORM 3INITIAL_FORM 3ISOLATED_FORM 3MEDIAL_FORM
    3WITH_DOT_BELOW 2STRAIGHT_WAW 2SUPERSCRIPT_ALEF 2SWASH_KAF 2TAH 3FINAL_FORM 3INITIAL_FORM
    3ISOLATED_FORM 3MEDIAL_FORM 3WITH_DOT_BELOW 4THREE_DOTS_ABOVE 6BELOW 4TWO_DOTS_ABOVE 2TCHEH
    3FINAL_FORM 3INITIAL_FORM 3ISOLATED_FORM 3MEDIAL_FORM 3WITH_DOT_ABOVE 4SMALL_V 2TCHEHEH
    3FINAL_FORM 3INITIAL_FORM 3ISOLATED_FORM 3MEDIAL_FORM 2TEH 3FINAL_FORM 3INITIAL_FORM
    3ISOLATED_FORM 3MARBUTA 4FINAL_FORM 4GOAL 4ISOLATED_FORM 3MEDIAL_FORM 3WITH_RING
    4SMALL_TEH_ABOVE 5V 4THREE_DOTS_ABOVE_DOWNWARDS 2TEHEH 3FINAL_FORM 3INITIAL_FORM 3ISOLATED_FORM
    3MEDIAL_FORM 2THAL 3FINAL_FORM 3ISOLATED_FORM 2THEH 3FINAL_FORM 3INITIAL_FORM 3ISOLATED_FORM
    3MEDIAL_FORM 2THIN_YEH 2TTEH 3FINAL_FORM 3INITIAL_FORM 3ISOLATED_FORM 3MEDIAL_FORM 3WITH_SMALL_V
    2TTEHEH 3FINAL_FORM 3INITIAL_FORM 3ISOLATED_FORM 3MEDIAL_FORM 2U 3FINAL_FORM 3ISOLATED_FORM
    3WITH_HAMZA_ABOVE 6ISOLATED_FORM 2UIGHUR_KAZAKH_KIRGHIZ_ALEF_MAKSURA_INITIAL_FORM 7MEDIAL_FORM
    2VE 3FINAL_FORM 3ISOLATED_FORM 2VEH 3FINAL_FORM 3INITIAL_FORM 3ISOLATED_FORM 3MEDIAL_FORM 2WAW
    3FINAL_FORM 3ISOLATED_FORM 3WITH_DOT_ABOVE 5WITHIN 4EXTENDED_ARABIC-INDIC_DIGIT_THREE_ABOVE
    7TWO_ABOVE 4HAMZA_ABOVE 6FINAL_FORM 6ISOLATED_FORM 4RING 4TWO_DOTS_ABOVE 2YEH 3BARREE
    4FINAL_FORM 4ISOLATED_FORM 4WITH_EXTENDED_ARABIC-INDIC_DIGIT_THREE_ABOVE 8TWO_ABOVE 5HAMZA_ABOVE
    7FINAL_FORM 7ISOLATED_FORM 3FINAL_FORM 3INITIAL_FORM 3ISOLATED_FORM 3MEDIAL_FORM
    3WITH_HAMZA_ABOVE 6FINAL_FORM 6INITIAL_FORM 6ISOLATED_FORM 6MEDIAL_FORM 4SMALL_V 4TAIL
    4THREE_DOTS_BELOW 4TWO_DOTS_BELOW_AND_DOT_ABOVE 8HAMZA_ABOVE 8SMALL_NOON_ABOVE 2YU 3FINAL_FORM
    3ISOLATED_FORM 2ZAH 3FINAL_FORM 3INITIAL_FORM 3ISOLATED_FORM 3MEDIAL_FORM 2ZAIN 3FINAL_FORM
    3ISOLATED_FORM 3WITH_INVERTED_V_ABOVE 1LIGATURE_AIN_WITH_ALEF_MAKSURA_FINAL_FORM 6ISOLATED_FORM
    4JEEM_INITIAL_FORM 5ISOLATED_FORM 5WITH_MEEM_FINAL_FORM 7INITIAL_FORM 4MEEM_INITIAL_FORM
    5ISOLATED_FORM 5WITH_ALEF_MAKSURA_FINAL_FORM 6MEEM_FINAL_FORM 7INITIAL_FORM 6YEH_FINAL_FORM
    4YEH_FINAL_FORM 5ISOLATED_FORM 2AKBAR_ISOLATED_FORM 2ALAYHAA_AS-SALAAM 2ALAYHE_ISOLATED_FORM
    2ALAYHI_AS-SALAAM 3AS-SALAATU_WAS-SALAAM 2ALAYHIM_AS-SALAAM 2ALAYHIMAA_AS-SALAAM
    2ALEF_MAKSURA_WITH_SUPERSCRIPT_ALEF_FINAL_FORM 7ISOLATED_FORM 3WITH_FATHATAN_FINAL_FORM
    5ISOLATED_FORM 2ALLAH_ISOLATED_FORM 2AZZA_WA_JALL 2BEH_WITH_ALEF_MAKSURA_FINAL_FORM
    6ISOLATED_FORM 4HAH_INITIAL_FORM 5ISOLATED_FORM 5WITH_YEH_FINAL_FORM 4HEH_INITIAL_FORM
    5MEDIAL_FORM 4JEEM_INITIAL_FORM 5ISOLATED_FORM 4KHAH_INITIAL_FORM 5ISOLATED_FORM
    5WITH_YEH_FINAL_FORM 4MEEM_FINAL_FORM 5INITIAL_FORM 5ISOLATED_FORM 5MEDIAL_FORM 4NOON_FINAL_FORM
    4REH_FINAL_FORM 4YEH_FINAL_FORM 5ISOLATED_FORM 4ZAIN_FINAL_FORM 2BISMILLAH_AR-RAHMAN_AR-RAHEEM
    2DAD_WITH_ALEF_MAKSURA_FINAL_FORM 6ISOLATED_FORM 4HAH_INITIAL_FORM 5ISOLATED_FORM
    5WITH_ALEF_MAKSURA_FINAL_FORM 6YEH_FINAL_FORM 4JEEM_INITIAL_FORM 5ISOLATED_FORM
    4KHAH_INITIAL_FORM 5ISOLATED_FORM 5WITH_MEEM_FINAL_FORM 7INITIAL_FORM 4MEEM_INITIAL_FORM
    5ISOLATED_FORM 4REH_FINAL_FORM 5ISOLATED_FORM 4YEH_FINAL_FORM 5ISOLATED_FORM
    2FEH_WITH_ALEF_MAKSURA_FINAL_FORM 6ISOLATED_FORM 4HAH_INITIAL_FORM 5ISOLATED_FORM
    4JEEM_INITIAL_FORM 5ISOLATED_FORM 4KHAH_INITIAL_FORM 5ISOLATED_FORM 5WITH_MEEM_FINAL_FORM
    7INITIAL_FORM 4MEEM_INITIAL_FORM 5ISOLATED_FORM 5WITH_YEH_FINAL_FORM 4YEH_FINAL_FORM
    5ISOLATED_FORM 2GHAIN_WITH_ALEF_MAKSURA_FINAL_FORM 6ISOLATED_FORM 4JEEM_INITIAL_FORM
    5ISOLATED_FORM 4MEEM_INITIAL_FORM 5ISOLATED_FORM 5WITH_ALEF_MAKSURA_FINAL_FORM 6MEEM_FINAL_FORM
    6YEH_FINAL_FORM 4YEH_FINAL_FORM 5ISOLATED_FORM 2HAH_WITH_ALEF_MAKSURA_FINAL_FORM 6ISOLATED_FORM
    4JEEM_INITIAL_FORM 5ISOLATED_FORM 5WITH_YEH_FINAL_FORM 4MEEM_INITIAL_FORM 5ISOLATED_FORM
    5WITH_ALEF_MAKSURA_FINAL_FORM 6YEH_FINAL_FORM 4YEH_FINAL_FORM 5ISOLATED_FORM
    2HEH_WITH_ALEF_MAKSURA_ISOLATED_FORM 4JEEM_INITIAL_FORM 5ISOLATED_FORM 4MEEM_INITIAL_FORM
    5ISOLATED_FORM 5WITH_JEEM_INITIAL_FORM 6MEEM_INITIAL_FORM 4SUPERSCRIPT_ALEF_INITIAL_FORM
    4YEH_ISOLATED_FORM 2JALLAJALALOUHOU 2JEEM_WITH_ALEF_MAKSURA_FINAL_FORM 6ISOLATED_FORM
    4HAH_INITIAL_FORM 5ISOLATED_FORM 5WITH_ALEF_MAKSURA_FINAL_FORM 6YEH_FINAL_FORM
    4MEEM_INITIAL_FORM 5ISOLATED_FORM 5WITH_ALEF_MAKSURA_FINAL_FORM 6HAH_FINAL_FORM 7INITIAL_FORM
    6YEH_FINAL_FORM 4YEH_FINAL_FORM 5ISOLATED_FORM 2KAF_WITH_ALEF_FINAL_FORM 5ISOLATED_FORM
    5MAKSURA_FINAL_FORM 6ISOLATED_FORM 4HAH_INITIAL_FORM 5ISOLATED_FORM 4JEEM_INITIAL_FORM
    5ISOLATED_FORM 4KHAH_INITIAL_FORM 5ISOLATED_FORM 4LAM_FINAL_FORM 5INITIAL_FORM 5ISOLATED_FORM
    5MEDIAL_FORM 4MEEM_FINAL_FORM 5INITIAL_FORM 5ISOLATED_FORM 5MEDIAL_FORM 5WITH_MEEM_FINAL_FORM
    7INITIAL_FORM 6YEH_FINAL_FORM 4YEH_FINAL_FORM 5ISOLATED_FORM 2KHAH_WITH_ALEF_MAKSURA_FINAL_FORM
    6ISOLATED_FORM 4HAH_ISOLATED_FORM 4JEEM_INITIAL_FORM 5ISOLATED_FORM 4MEEM_INITIAL_FORM
    5ISOLATED_FORM 4YEH_FINAL_FORM 5ISOLATED_FORM 2LAM_WITH_ALEF_FINAL_FORM 5ISOLATED_FORM
    5MAKSURA_FINAL_FORM 6ISOLATED_FORM 5WITH_HAMZA_ABOVE_FINAL_FORM 8ISOLATED_FORM 7BELOW_FINAL_FORM
    8ISOLATED_FORM 6MADDA_ABOVE_FINAL_FORM 8ISOLATED_FORM 4HAH_INITIAL_FORM 5ISOLATED_FORM
    5WITH_ALEF_MAKSURA_FINAL_FORM 6MEEM_FINAL_FORM 7INITIAL_FORM 6YEH_FINAL_FORM 4HEH_INITIAL_FORM
    4JEEM_INITIAL_FORM 5ISOLATED_FORM 5WITH_JEEM_FINAL_FORM 7INITIAL_FORM 6MEEM_FINAL_FORM
    7INITIAL_FORM 6YEH_FINAL_FORM 4KHAH_INITIAL_FORM 5ISOLATED_FORM 5WITH_MEEM_FINAL_FORM
    7INITIAL_FORM 4MEEM_FINAL_FORM 5INITIAL_FORM 5ISOLATED_FORM 5MEDIAL_FORM 5WITH_HAH_FINAL_FORM
    7INITIAL_FORM 6YEH_FINAL_FORM 4YEH_FINAL_FORM 5ISOLATED_FORM 2MEEM_WITH_ALEF_FINAL_FORM
    5MAKSURA_ISOLATED_FORM 4HAH_INITIAL_FORM 5ISOLATED_FORM 5WITH_JEEM_INITIAL_FORM
    6MEEM_INITIAL_FORM 6YEH_FINAL_FORM 4JEEM_INITIAL_FORM 5ISOLATED_FORM 5WITH_HAH_INITIAL_FORM
    6KHAH_INITIAL_FORM 6MEEM_INITIAL_FORM 6YEH_FINAL_FORM 4KHAH_INITIAL_FORM 5ISOLATED_FORM
    5WITH_JEEM_INITIAL_FORM 6MEEM_INITIAL_FORM 6YEH_FINAL_FORM 4MEEM_FINAL_FORM 5INITIAL_FORM
    5ISOLATED_FORM 5WITH_YEH_FINAL_FORM 4YEH_ISOLATED_FORM 2MOHAMMAD_ISOLATED_FORM
    2NOON_WITH_ALEF_MAKSURA_FINAL_FORM 6ISOLATED_FORM 4HAH_INITIAL_FORM 5ISOLATED_FORM
    5WITH_ALEF_MAKSURA_FINAL_FORM 6MEEM_INITIAL_FORM 6YEH_FINAL_FORM 4HEH_INITIAL_FORM 5MEDIAL_FORM
    4JEEM_INITIAL_FORM 5ISOLATED_FORM 5WITH_ALEF_MAKSURA_FINAL_FORM 6HAH_FINAL_FORM 7INITIAL_FORM
    6MEEM_FINAL_FORM 7INITIAL_FORM 6YEH_FINAL_FORM 4KHAH_INITIAL_FORM 5ISOLATED_FORM
    4MEEM_FINAL_FORM 5INITIAL_FORM 5ISOLATED_FORM 5MEDIAL_FORM 5WITH_ALEF_MAKSURA_FINAL_FORM
    6YEH_FINAL_FORM 4NOON_FINAL_FORM 4REH_FINAL_FORM 4YEH_FINAL_FORM 5ISOLATED_FORM 4ZAIN_FINAL_FORM
    2QAF_WITH_ALEF_MAKSURA_FINAL_FORM 6ISOLATED_FORM 4HAH_INITIAL_FORM 5ISOLATED_FORM
    4MEEM_INITIAL_FORM 5ISOLATED_FORM 5WITH_HAH_FINAL_FORM 7INITIAL_FORM 6MEEM_FINAL_FORM
    6YEH_FINAL_FORM 4YEH_FINAL_FORM 5ISOLATED_FORM 2QALA_USED_AS_KORANIC_STOP_SIGN_ISOLATED_FORM
    2QUDDISA_SIRRAH 2RADI_ALLAAHU_ANH 4ANHAA 4ANHUM 4ANHUMAA 4ANHUNNA 2RAHIMAHU_ALLAAH
    2RAHIMAHUM_ALLAAH 2RASOUL_ISOLATED_FORM 2REH_WITH_SUPERSCRIPT_ALEF_ISOLATED_FORM
    2SAD_WITH_ALEF_MAKSURA_FINAL_FORM 6ISOLATED_FORM 4HAH_INITIAL_FORM 5ISOLATED_FORM
    5WITH_HAH_FINAL_FORM 7INITIAL_FORM 6YEH_FINAL_FORM 4KHAH_INITIAL_FORM 4MEEM_INITIAL_FORM
    5ISOLATED_FORM 5WITH_MEEM_FINAL_FORM 7INITIAL_FORM 4REH_FINAL_FORM 5ISOLATED_FORM
    4YEH_FINAL_FORM 5ISOLATED_FORM 2SALAAMUHU_ALAYNAA 2SALAM_ISOLATED_FORM 2SALLA_ISOLATED_FORM
    3USED_AS_KORANIC_STOP_SIGN_ISOLATED_FORM 2SALLALLAAHU_ALAYHI_WA-AALIH
    2SALLALLAHOU_ALAYHE_WASALLAM 2SALLALLAHU_ALAYHI_WAAALIHEE_WA-SALLAM
    2SEEN_WITH_ALEF_MAKSURA_FINAL_FORM 6ISOLATED_FORM 4HAH_INITIAL_FORM 5ISOLATED_FORM 5MEDIAL_FORM
    5WITH_JEEM_INITIAL_FORM 4HEH_INITIAL_FORM 5MEDIAL_FORM 4JEEM_INITIAL_FORM 5ISOLATED_FORM
    5MEDIAL_FORM 5WITH_ALEF_MAKSURA_FINAL_FORM 6HAH_INITIAL_FORM 4KHAH_INITIAL_FORM 5ISOLATED_FORM
    5MEDIAL_FORM 5WITH_ALEF_MAKSURA_FINAL_FORM 6YEH_FINAL_FORM 4MEEM_INITIAL_FORM 5ISOLATED_FORM
    5MEDIAL_FORM 5WITH_HAH_FINAL_FORM 7INITIAL_FORM 6JEEM_INITIAL_FORM 6MEEM_FINAL_FORM
    7INITIAL_FORM 4REH_FINAL_FORM 5ISOLATED_FORM 4YEH_FINAL_FORM 5ISOLATED_FORM
    2SHADDA_WITH_DAMMA_ISOLATED_FORM 5MEDIAL_FORM 4DAMMATAN_ISOLATED_FORM 4FATHA_ISOLATED_FORM
    5MEDIAL_FORM 4KASRA_ISOLATED_FORM 5MEDIAL_FORM 4KASRATAN_ISOLATED_FORM
    4SUPERSCRIPT_ALEF_ISOLATED_FORM 2SHEEN_WITH_ALEF_MAKSURA_FINAL_FORM 6ISOLATED_FORM
    4HAH_FINAL_FORM 5INITIAL_FORM 5ISOLATED_FORM 5MEDIAL_FORM 5WITH_MEEM_FINAL_FORM 7INITIAL_FORM
    6YEH_FINAL_FORM 4HEH_INITIAL_FORM 5MEDIAL_FORM 4JEEM_FINAL_FORM 5INITIAL_FORM 5ISOLATED_FORM
    5MEDIAL_FORM 5WITH_YEH_FINAL_FORM 4KHAH_FINAL_FORM 5INITIAL_FORM 5ISOLATED_FORM 5MEDIAL_FORM
    4MEEM_FINAL_FORM 5INITIAL_FORM 5ISOLATED_FORM 5MEDIAL_FORM 5WITH_KHAH_FINAL_FORM 7INITIAL_FORM
    6MEEM_FINAL_FORM 7INITIAL_FORM 4REH_FINAL_FORM 5ISOLATED_FORM 4YEH_FINAL_FORM 5ISOLATED_FORM
    2SUBHAANAHU_WA_TAAALAA 2TABAARAKA_WA-TAAALAA 2TAH_WITH_ALEF_MAKSURA_FINAL_FORM 6ISOLATED_FORM
    4HAH_INITIAL_FORM 5ISOLATED_FORM 4MEEM_INITIAL_FORM 5ISOLATED_FORM 5MEDIAL_FORM
    5WITH_HAH_FINAL_FORM 7INITIAL_FORM 6MEEM_INITIAL_FORM 6YEH_FINAL_FORM 4YEH_FINAL_FORM
    5ISOLATED_FORM 2TEH_WITH_ALEF_MAKSURA_FINAL_FORM 6ISOLATED_FORM 4HAH_INITIAL_FORM 5ISOLATED_FORM
    5WITH_JEEM_FINAL_FORM 7INITIAL_FORM 6MEEM_INITIAL_FORM 4HEH_INITIAL_FORM 5MEDIAL_FORM
    4JEEM_INITIAL_FORM 5ISOLATED_FORM 5WITH_ALEF_MAKSURA_FINAL_FORM 6MEEM_INITIAL_FORM
    6YEH_FINAL_FORM 4KHAH_INITIAL_FORM 5ISOLATED_FORM 5WITH_ALEF_MAKSURA_FINAL_FORM
    6MEEM_INITIAL_FORM 6YEH_FINAL_FORM 4MEEM_FINAL_FORM 5INITIAL_FORM 5ISOLATED_FORM 5MEDIAL_FORM
    5WITH_ALEF_MAKSURA_FINAL_FORM 6HAH_INITIAL_FORM 6JEEM_INITIAL_FORM 6KHAH_INITIAL_FORM
    6YEH_FINAL_FORM 4NOON_FINAL_FORM 4REH_FINAL_FORM 4YEH_FINAL_FORM 5ISOLATED_FORM 4ZAIN_FINAL_FORM
    2THAL_WITH_SUPERSCRIPT_ALEF_ISOLATED_FORM 2THEH_WITH_ALEF_MAKSURA_FINAL_FORM 6ISOLATED_FORM
    4HEH_MEDIAL_FORM 4JEEM_ISOLATED_FORM 4MEEM_FINAL_FORM 5INITIAL_FORM 5ISOLATED_FORM 5MEDIAL_FORM
    4NOON_FINAL_FORM 4REH_FINAL_FORM 4YEH_FINAL_FORM 5ISOLATED_FORM 4ZAIN_FINAL_FORM
    2UIGHUR_KIRGHIZ_YEH_WITH_HAMZA_ABOVE_WITH_ALEF_MAKSURA_FINAL_FORM bINITIAL_FORM bISOLATED_FORM
    2WASALLAM_ISOLATED_FORM 2YEH_WITH_ALEF_MAKSURA_FINAL_FORM 6ISOLATED_FORM 4HAH_INITIAL_FORM
    5ISOLATED_FORM 5WITH_YEH_FINAL_FORM 4HAMZA_ABOVE_WITH_AE_FINAL_FORM 8ISOLATED_FORM
    7ALEF_FINAL_FORM 8ISOLATED_FORM 8MAKSURA_FINAL_FORM 9ISOLATED_FORM 7E_FINAL_FORM 8INITIAL_FORM
    8ISOLATED_FORM 7HAH_INITIAL_FORM 8ISOLATED_FORM 7HEH_INITIAL_FORM 8MEDIAL_FORM
    7JEEM_INITIAL_FORM 8ISOLATED_FORM 7KHAH_INITIAL_FORM 7MEEM_FINAL_FORM 8INITIAL_FORM
    8ISOLATED_FORM 8MEDIAL_FORM 7NOON_FINAL_FORM 7OE_FINAL_FORM 8ISOLATED_FORM 7REH_FINAL_FORM
    7U_FINAL_FORM 8ISOLATED_FORM 7WAW_FINAL_FORM 8ISOLATED_FORM 7YEH_FINAL_FORM 8ISOLATED_FORM
    7YU_FINAL_FORM 8ISOLATED_FORM 7ZAIN_FINAL_FORM 4HEH_INITIAL_FORM 5MEDIAL_FORM 4JEEM_INITIAL_FORM
    5ISOLATED_FORM 5WITH_YEH_FINAL_FORM 4KHAH_INITIAL_FORM 5ISOLATED_FORM 4MEEM_FINAL_FORM
    5INITIAL_FORM 5ISOLATED_FORM 5MEDIAL_FORM 5WITH_MEEM_FINAL_FORM 7INITIAL_FORM 6YEH_FINAL_FORM
    4NOON_FINAL_FORM 4REH_FINAL_FORM 4YEH_FINAL_FORM 5ISOLATED_FORM 4ZAIN_FINAL_FORM
    2ZAH_WITH_MEEM_INITIAL_FORM 5ISOLATED_FORM 5MEDIAL_FORM 1MADDA_WAAJIB 1MADDAH_ABOVE
    1MARK_NOON_GHUNNA 2SIDEWAYS_NOON_GHUNNA 1MATHEMATICAL_AIN 2ALEF 2BEH 2DAD 2DAL 2DOTLESS_BEH 3FEH
    3NOON 3QAF 2DOUBLE-STRUCK_AIN 3BEH 3DAD 3DAL 3FEH 3GHAIN 3HAH 3JEEM 3KHAH 3LAM 3MEEM 3NOON 3QAF
    3REH 3SAD 3SEEN 3SHEEN 3TAH 3TEH 3THAL 3THEH 3WAW 3YEH 3ZAH 3ZAIN 2FEH 2GHAIN 2HAH 2INITIAL_AIN
    3BEH 3DAD 3FEH 3GHAIN 3HAH 3HEH 3JEEM 3KAF 3KHAH 3LAM 3MEEM 3NOON 3QAF 3SAD 3SEEN 3SHEEN 3TEH
    3THEH 3YEH 2JEEM 2KAF 2KHAH 2LAM 2LOOPED_AIN 3ALEF 3BEH 3DAD 3DAL 3FEH 3GHAIN 3HAH 3HEH 3JEEM
    3KHAH 3LAM 3MEEM 3NOON 3QAF 3REH 3SAD 3SEEN 3SHEEN 3TAH 3TEH 3THAL 3THEH 3WAW 3YEH 3ZAH 3ZAIN
    2MEEM 2NOON 2OPERATOR_HAH_WITH_DAL 3MEEM_WITH_HAH_WITH_TATWEEL 2QAF 2REH 2SAD 2SEEN 2SHEEN
    2STRETCHED_AIN 3BEH 3DAD 3DOTLESS_BEH 4FEH 3FEH 3GHAIN 3HAH 3HEH 3JEEM 3KAF 3KHAH 3MEEM 3NOON
    3QAF 3SAD 3SEEN 3SHEEN 3TAH 3TEH 3THEH 3YEH 3ZAH 2TAH 2TAILED_AIN 3DAD 3DOTLESS_NOON 4QAF 3GHAIN
    3HAH 3JEEM 3KHAH 3LAM 3NOON 3QAF 3SAD 3SEEN 3SHEEN 3YEH 2TEH 2THAL 2THEH 2WAW 2YEH 2ZAH 2ZAIN
    1NUMBER_MARK_ABOVE 2SIGN 1OPEN_DAMMATAN 2FATHATAN 2KASRATAN 1PERCENT_SIGN 1PIASTRE_MARK_ABOVE
    1PLACE_OF_SAJDAH 1POETIC_VERSE_SIGN 1POUND_MARK_ABOVE 1QUESTION_MARK 1RAISED_ROUND_DOT 1RAY
    1REVERSED_DAMMA 1RIGHT_ARROWHEAD_ABOVE 4WITH_DOT 3BELOW 1ROUNDED_HIGH_STOP_WITH_FILLED_CENTRE
    1SEMICOLON 1SHADDA 2ISOLATED_FORM 2MEDIAL_FORM 1SIGN_ALAYHE_ASSALLAM 2MISRA 2RADI_ALLAHOU_ANHU
    2RAHMATULLAH_ALAYHE 2SAFHA 2SALLALLAHOU_ALAYHE_WASSALLAM 2SAMVAT 2SANAH 2SINDHI_AMPERSAND
    3POSTPOSITION_MEN 2TAKHALLUS 1SMALL_DAMMA 2FARSI_YEH 2FATHA 2HIGH_AIN 3DOTLESS_HEAD_OF_KHAH
    3FARSI_YEH 3FOOTNOTE_MARKER 3JEEM 3LAM_ALEF 3LIGATURE_ALEF_WITH_LAM_WITH_YEH
    4QAF_WITH_LAM_WITH_ALEF_MAKSURA 4SAD_WITH_LAM_WITH_ALEF_MAKSURA 3MADDA 3MEEM_INITIAL_FORM
    4ISOLATED_FORM 3NOON 4WITH_KASRA 3QAF 3ROUNDED_ZERO 3SAD 3SEEN 3SIGN_SAFHA 3TAH 3THREE_DOTS
    3UPRIGHT_RECTANGULAR_ZERO 3WAW 3WORD_AL-JUZ 4AN-NISF 4AR-RUB 4AS-SAJDA 4ATH-THALATHA 4QIF 4SAH
    4SAKTA 4WAQFA 3YEH 4BARREE_WITH_TWO_DOTS_BELOW 3ZAH 3ZAIN 2KASRA 2LOW_MEEM 3NOON_WITH_KASRA
    3SEEN 3WAW 3WORD_IMAALA 4ISHMAAM 4TASHEEL 2WAW 2YEH 1START_OF_RUB_EL_HIZB 1SUBSCRIPT_ALEF 1SUKUN
    2BELOW 2ISOLATED_FORM 2MEDIAL_FORM 1SUPERSCRIPT_ALEF_MOKHASSAS 1SYMBOL_DOT_ABOVE 3BELOW
    2DOUBLE_VERTICAL_BAR_BELOW 2FOUR_DOTS_ABOVE 4BELOW 2RING 2SMALL_TAH_ABOVE 4BELOW
    2THREE_DOTS_ABOVE 4BELOW 4POINTING_DOWNWARDS_ABOVE 6BELOW 2TWO_DOTS_ABOVE 4BELOW
    4VERTICALLY_ABOVE 5BELOW 2WASLA_ABOVE 1TAIL_FRAGMENT 1TATWEEL 2WITH_FATHATAN_ABOVE
    3OVERSTRUCK_HAMZA 4WAW 3TWO_DOTS_BELOW 1THOUSANDS_SEPARATOR 1TONE_LOOP_ABOVE 3BELOW
    2ONE_DOT_ABOVE 4BELOW 2TWO_DOTS_ABOVE 4BELOW 1TRIPLE_DOT_PUNCTUATION_MARK 1TURNED_DAMMA_BELOW
    1VERTICAL_TAIL 1VOWEL_SIGN_DOT_BELOW 3INVERTED_SMALL_V_ABOVE 3SMALL_V_ABOVE 1WAVY_HAMZA_BELOW
    1ZWARAKAY 0ARABIC-INDIC_CUBE_ROOT 1DIGIT_EIGHT 2FIVE 2FOUR 2NINE 2ONE 2SEVEN 2SIX 2THREE 2TWO
    2ZERO 1FOURTH_ROOT 1PER_MILLE_SIGN 2TEN_THOUSAND_SIGN 0ARC 0ARIES 0ARMENIAN_ABBREVIATION_MARK
    1APOSTROPHE 1CAPITAL_LETTER_AYB 3BEN 3CA 3CHA 3CHEH 3CO 3DA 3ECH 3EH 3ET 3FEH 3GHAD 3GIM 3HO
    3INI 3JA 3JHEH 3KEH 3KEN 3LIWN 3MEN 3NOW 3OH 3PEH 3PIWR 3RA 3REH 3SEH 3SHA 3TIWN 3TO 3VEW 3VO
    3XEH 3YI 3YIWN 3ZA 3ZHE 1COMMA 1DRAM_SIGN 1EMPHASIS_MARK 1EXCLAMATION_MARK 1FULL_STOP 1HYPHEN
    1MODIFIER_LETTER_LEFT_HALF_RING 1QUESTION_MARK 1SMALL_LETTER_AYB 3BEN 3CA 3CHA 3CHEH 3CO 3DA
    3ECH 3EH 3ET 3FEH 3GHAD 3GIM 3HO 3INI 3JA 3JHEH 3KEH 3KEN 3LIWN 3MEN 3NOW 3OH 3PEH 3PIWR 3RA
    3REH 3SEH 3SHA 3TIWN 3TO 3TURNED_AYB 3VEW 3VO 3XEH 3YI 4WITH_STROKE 3YIWN 3ZA 3ZHE
    2LIGATURE_ECH_YIWN 3MEN_ECH 4INI 4NOW 4XEH 3VEW_NOW
    0ARROW_POINTING_DOWNWARDS_THEN_CURVING_LEFTWARDS 5RIGHTWARDS 2RIGHTWARDS_THEN_CURVING_DOWNWARDS
    5SOUTH_WEST 5UPWARDS 2UPWARDS_THEN_NORTH_WEST 0ARROWHEAD-SHAPED_POINTER 0ARTICULATED_LORRY
    0ARTIST_PALETTE 0ASCENDING_NODE 0ASCIA_SYMBOL 0ASSERTION 0ASTERISK 1OPERATOR 0ASTERISM
    0ASTONISHED_FACE 0ASTRAEA 0ASTRONOMICAL_SYMBOL_FOR_URANUS 0ASYMPTOTICALLY_EQUAL_TO
    0ATHLETIC_SHOE 0ATOM_SYMBOL 0AUBERGINE 0AUSTRAL_SIGN 0AUTO_RICKSHAW 0AUTOMATED_TELLER_MACHINE
    0AUTOMOBILE 0AVESTAN_ABBREVIATION_MARK 1LETTER_A 2AA 2AAN 2AAO 2AE 2AEE 2AN 2AO 2BE 2BHE 2CE 2DE
    2DHE 2E 2EE 2FE 2GE 2GGE 2GHE 2HE 2HME 2I 2II 2JE 2KE 2LE 2ME 2NE 2NGE 2NGVE 2NGYE 2NNE 2NYE 2O
    2OO 2PE 2RE 2SE 2SHE 2SHYE 2SSHE 2TE 2THE 2TTE 2U 2UU 2VE 2XE 2XVE 2XYE 2YE 2YYE 2ZE 2ZHE
    0AVOCADO 0AXE
    "),
    ('B', "
    0BABY 1ANGEL 1BOTTLE 1CHICK 1SYMBOL 0BACK_OF_ENVELOPE 1WITH_LEFTWARDS_ARROW_ABOVE
    0BACK-TILTED_SHADOWED_WHITE_RIGHTWARDS_ARROW 0BACKSLANTED_SOUTH_ARROW_WITH_HOOKED_TAIL
    4HORIZONTAL_TAIL 0BACKSPACE 0BACON 0BACTRIAN_CAMEL 0BADGER 0BADMINTON_RACQUET_AND_SHUTTLECOCK
    0BAGEL 0BAGGAGE_CLAIM 0BAGUETTE_BREAD 0BALINESE_ADEG_ADEG 1CARIK_PAMUNGKAH 2PAREREN 2SIKI
    1DIGIT_EIGHT 2FIVE 2FOUR 2NINE 2ONE 2SEVEN 2SIX 2THREE 2TWO 2ZERO 1LETTER_AIKARA 2AKARA 3TEDUNG
    2ARCHAIC_JNYA 2ASYURA_SASAK 2BA 3KEMBANG 2CA 3LACA 2DA 3MADU 3MURDA_ALPAPRANA 4MAHAPRANA
    2EF_SASAK 2EKARA 2GA 3GORA 2HA 2IKARA 3TEDUNG 2JA 3JERA 2KA 3MAHAPRANA 2KAF_SASAK 2KHOT_SASAK
    2LA 3LENGA 4TEDUNG 2MA 2NA 3RAMBAT 2NGA 2NYA 2OKARA 3TEDUNG 2PA 3KAPAL 2RA 3REPA 4TEDUNG 2SA
    3SAGA 3SAPA 2TA 3LATIK 3MURDA_MAHAPRANA 3TAWA 2TZIR_SASAK 2UKARA 3TEDUNG 2VE_SASAK 2WA 2YA
    2ZAL_SASAK 1MUSICAL_SYMBOL_COMBINING_BENDE 4ENDEP 4GONG 4JEGOGAN 4KEMPLI 5WITH_JEGOGAN 4KEMPUL
    5WITH_JEGOGAN 4TEGEH 3DAENG 3DAING 3DANG 4GEDE 4SURANG 3DENG 3DEUNG 3DING 3DONG 3DUNG
    3LEFT-HAND_CLOSED_PLAK 5PLUK 4OPEN_PANG 5PING 5PUNG 3RIGHT-HAND_CLOSED_TAK 5TUK 4OPEN_DAG 5DUG
    1PAMADA 2LANTANG 1PAMENENG 1PANTI 2LANTANG 1SIGN_BISAH 2CECEK 2REREKAN 2SURANG 2ULU_CANDRA
    3RICEM 1VOWEL_SIGN_LA_LENGA 5TEDUNG 3PEPET 4TEDUNG 3RA_REPA 5TEDUNG 3SUKU 4ILUT 3TALING 4REPA
    5TEDUNG 4TEDUNG 3TEDUNG 3ULU 4SARI 1WINDU 0BALL_OF_YARN 0BALLET_SHOES 0BALLOON
    0BALLOON-SPOKED_ASTERISK 0BALLOT_BOLD_SCRIPT_X 1BOX 2WITH_BALLOT 3BOLD_CHECK 4SCRIPT_X 3CHECK
    3LIGHT_X 3SCRIPT_X 3X 1SCRIPT_X 1X 0BAMUM_COLON 1COMBINING_MARK_KOQNDON 3TUKWENTIS 1COMMA
    1FULL_STOP 1LETTER_A 2EE 2FAAMAE 2FEE 2FOM 2FU 2I 2KA 2KEN 2KET 2KEUX 2KI 2KO 2KOGHOM 2KOVUU
    2KPA 2KU 2KYEE 2LA 2LEEEE 2LI 2LOQ 2LU 2M 2MA 2MBAA 2MBEN 2MEEEE 2MEN 2MI 2MO 2MU 2NA 2NDAA 2NGA
    2NGGA 2NGKWAEN 2NI 2NJAEM 2NJEE 2NJUAE 2NSHA 2NTEE 2NTUU 2NU 2NUAE 2NYI 2O 2PA 2PEE 2PEUX
    2PHASE-A_FIRI 3GBIEE_FON 3GHEUAEGHEUAE 3GHEUAERAE 3KAFA 3KAQ 3KET 3KEUKEUTNDA 3KPOQ 3KUOQ 3LAPAQ
    3LET_KUT 3LOMMAE 3LU 3LUAEP 3MAEKEUP 3MAEM 3MAEMBGBIEE 3MAEMKPEN 3MAEMVEUX 3MAENYI 3MAESI
    3MANSUAE 3MAP_PIEET 3MBANYI 3MBAQ 3MEUNJOMNDEUQ 3MGBASA 3MON_NGGEUAET 3MOOMEUT 3MOOMPUQ
    3MVEUAENGAM 3NAA_MFON 3NAQ 3NDA_LEERAEWA 3NDAANGGEUAET 3NEN 3NGANGU 3NGGEN 3NGKUE_MFON
    3NGKUENZEUM 3NIKA 3NJAM 3NKAARAE 3NKINDI 3NSHA 3NSHIEE 3NTAP 4MFAA 4NTAA 3NTOQPEN 3NYET 3NYI
    3NYIT_MONGKEUAEQ 3NZA_MFON 3NZUN_MEUT 3PA_LEERAEWA 3PAAM 3PAARAE 3PAMSHAE 3PASHAE 3PET
    3PON_MFON_PIPAEMBA 5PIPAEMGBIEE 4PA_NJI_PIPAEMBA 6PIPAEMGBIEE 3PUP 3ROM 3SEUNYAM 3SHINDA_PA_NJI
    3SHIRAE 3SHOQ_NSHUT_YUM 3SHUENSHUET 3SHUM 3SISA 3SONJAM 3SOQ 3SOT 3SUU 3TEUAEN 3TEUTEUWEN
    3TITA_MFON 3TU_MAEMBA 3TUAEP 3U_YUQ_NAE 3UNKNOWN 3VEE 2PHASE-B_FEE 3FEUX 3GHEUGHEN 3GHEUGHEUAEM
    3KAM 3KEUAEM 3KEUPUQ 3KEUYEUX 3KIEEM 3KIQ 3LAANAE 3LAM_NSHUT_NYAM 3LET 3LOM_NTEUM 3MA 4NJEUAENA
    4NJUQA 3MBA_MAELEE 3MBAARAE 3MBEURI 3MBIT_MBAAKET 3MBUOQ 3MEUQ 3MEUT_NGGEET 3MFIYAQ 3MFON_TEUAEQ
    3MONTIEEN 3NDU_NJAA 3NGGAAM 3NGGEU_MBU 3NGGUOQ 4LARGE 3NGKINDI_MVOP 3NGOM 3NSEN 3NSHUET
    3NTIEE_SHEUOQ 3NYAEMAE 3NYI_NTEUM 3PARUM 3PEESHI 3PIT 3PUNGAAM 3SAKEUAE 3SET_TU 3SHET_NJAQ
    3SHEUAEQTU 3SIEE 3SUE 3TAAM 3TU_MAEMGBIEE 4NSIEE 3VEUM 3WUAET 3YAFU_LEERAEWA 3YEURAE
    2PHASE-C_BUNG 3FUE 3GBAYI 3GHAP 3GHARAE 3KAA 3KEN_FATIGUE 4LAW 3KET 3KEUKAQ 3KEUM 3KEUSEUX
    3KEUSHEUAEP 3KPARAQ 3KUOP_NKAARAE 3KUT 3LAM 3LAP 3LIQ 3LU 3MA_KEUAERI 4NSIEE 3MAEMBA 3MAESI
    3MBAA_CABBAGE-TREE 4PICKET 3MBANYI 3MBEEKEET 3MBERAE 3MBEUM 3MBEUX 3MBI 3MBIRIEEN 3MBIT 3MBUAEM
    3MBUE 3MGBASAQ 3MIEE 3MUAE 3NANSANAQ 3NAQ 3NDAM 3NDAP 3NDEUAEREE 3NDEUT 3NDIDA 3NDOMBU 3NGAQ
    3NGGEN 3NGGU 3NGGUAEN_NYAM 3NGGUEET 3NGGUM 3NGGUON 3NGKAQ 3NGKUE_MAEMBA 3NGOM 3NJAEM 3NJAM
    3NJEEEE 3NJEUX 3NJUEQ 3NSA 3NSEUAEN 3NSHAQ 3NSOM 3NSUN 3NSUOT_NGOM 3NTAA 3NTEN 3NTEUNGBA
    3NTU_MBIT 3NYIR_MKPARAQ_MEUN 3NZA 3NZEUM 3PEN 3PIN 3PIRIEEN 3RU 3SETFON 3SEUX 3SHIQ 3SHUEQ
    3SUAET 3TAASHAE 3TET 3TEUTEUX 3TITA_YUE 3TITUAEP 3VEUAEPEN 3VEUX 3WANGKUOQ 3WUP 3YAA 3YEUQ
    3YU_MUOMAE 3YUM 3YUWOQ 2PHASE-D_FAA 3FEUFEUAET 3GHAA 3GHEUAE 3KET 3KEUAETMEUN 3KEUM 3KEUOT_MBUAE
    3KEUP 3KU 3KUN 3KUOM 3KUQ 3KWAET 3KYEE 3LEEEE 3LET 3LEUAEP 3LEUM 3LIEE 3LOQ 3LUM 3M 3MAENJET
    3MALEERI 3MBAA 4SEVEN 3MBUO 3MEEEE 3MEUN 3MEUT 3MFEUAE 3MFEUT 3MFIEE 3MFO 3MFON 3MGBEUN 3MGBIEE
    3MGBOFUM 3MONI 3MU 3MVOP 3NDAM 3NDEE 3NDEUX 3NDON 3NGGAAM 3NGGAAMAE 3NGGAP 3NGGEUX 3NGGUOM
    3NGGWAEN 3NGKAP 3NGKEUAEQ 3NGKEURI 3NGKIEE 3NGKUN 3NGKYEE 3NI 3NJAP 3NJEUAEM 3NJEUT 3NJI 3NJIEE
    3NJUEQ 3NSHEE 3NSHUT 3NSIEEP 3NSIEET 3NSUM 3NTEE 3NTEUM 3NTUU 3NU 3NYAM 3NYET 3NYI 3NYUE 3PAP
    3PEE 3PEUTAE 3PIP 3PUQ 3PUUT 3RAEM 3REN_MUCH 4OLD 3RII 3SAP 3SAQ 3SEUAEQ 3SHEE 3SHEUAE 3SHEUX
    3SHII 3SHOQ 3SHU 3SOT 3SUAE 3SUE 3SUU 3TAE 3TEEEE 3TEUAEN 3TEUN 3TEUT 3TI 3TOQ 3TU 3TUOT 3WAP
    3WUAEN 3YAEMMAE 3YEN 3YUOM 3YUOP 3YUWOQ 2PHASE-E_A 3FA 3FAQ 3FEE 3FOM 3FU_CALL 4I 4REMEDY 3FUE
    3FUET 3GBET 3GBEUX 3GHAAMAE 3GHET 3GHEUAE 3GHEUN 3GHEUX 3GHOM 3I 3KET 3KEUAE 3KEUX 3KI 3KO
    3KPEUX 3KUET 3KUOP 3KUT 3LAAM 3LAP 3LAQ 3LEUAEM 3LOM 3LOON 3LOOT 3LOQ 3LU 3MA 3MAE 3MAEM 3MAP
    3MAQ 3MBEE 3MBEUM 3MEN 3MFEUQ 3MGBA 3MGBEN 3MI 3MIEE 3MON 3MUAE 3MVI 3NA 3NAE 3NDAA_MY_HOUSE
    4SOFTNESS 3NDAP 3NDIAQ 3NDIQ 3NDUN 3NGA 3NGEUREUT 3NGGEEEE 3NGGEUAE 3NGGEUAET 3NGGUAESHAE_NYAM
    3NGGUP 3NGGURAE 3NGKA 3NGKAAMI 3NGKEUAEM 3NGKEUX 3NGKUM 3NGKUP 3NGOP 3NGOQ 3NGUAE 3NGUAET
    3NJAEMLI 3NJEE 4EPOCH 3NJEUX 3NKOM 3NSHIEE 3NSHUE 3NSHUOP 3NTAP 3NTUM 3NYI_BETWEEN 4CLEAVER
    3NZAQ 3NZUQ 3O 3PA_PEOPLE 4PLURAL 3PAA 3PAAM 3PEEM 3PEUT 3PEUX 3PI 3PIEEQ 3PIET 3PO 3POON 3PU
    3PUAE 3PUAQ 3PUE 3PUM 3RAE 3RAQ 3REUX 3RIMGBA 3SAA 3SEE 3SET 3SHEUAEQ 3SHIQ 3SHO 3SHOQ 3SOM
    3SUAEN 3TAA 3TAAQ 3TAEN_NTEUM 3TAM 3TAQ 3TEN 3TEU 3TEUAEQ 3TOO 3TOON 3TOQ 3TUAE 3TUM 3TUMAE 3VEE
    3VEUAE 3VOM 3WEUX 3WUE 3WUO 3YAP 3YEUAE 3YEUAET 3YEUM 3YEUX 3YIEE 3YIT 3YOQ_COVER 4SWIMMING
    3YUAEN 3YUEQ 3YUN 3YUQ 2PHASE-F_EE 3FOM 3KA 3KEN 3KET 3KO 3KPA 3KU 3KYEE 3LA 3LI 3LOQ 3M 3MA
    3MBAA 3MBEN 3MEEEE 3MO 3NDAA 3NGGA 3NGKWAEN 3NI 3NJAEM 3NJUAE 3NSHA 3NTEE 3NU 3NUAE 3NYI 3PEE
    3PEUX 3PUAE 3REE 3REN 3REUX 3RIEE 3RII 3RU 3SAMBA 3SEUX 3SHII 3SHO 3SHU 3SI 3SUU 3TAA 3TAE 3TET
    3U 3VUEQ 3WA 3WUE 3YA 3YOQ 2PI 2PUAE 2PUE 2RAE 2REE 2REN 2REUX 2RIEE 2RII 2RU 2SAMBA 2SEUX
    2SHEUX 2SHII 2SHO 2SHU 2SI 2SUU 2TAA 2TAE 2TEN 2TET 2TI 2U 2WA 2WUE 2YA 2YOQ 2YUQ 1NJAEMLI
    1QUESTION_MARK 1SEMICOLON 0BANANA 0BANJO 0BANK 0BANKNOTE_WITH_DOLLAR_SIGN 2EURO_SIGN 2POUND_SIGN
    2YEN_SIGN 0BAR_CHART 1OF_SOAP 0BARBER_POLE 0BASEBALL 0BASKET 0BASKETBALL_AND_HOOP
    0BASSA_VAH_COMBINING_HIGH_TONE 3HIGH-LOW_TONE 3LOW_TONE 3LOW-MID_TONE 3MID_TONE 2FULL_STOP
    2LETTER_A 3BA 3CE 3DHII 3DO 3E 3EE 3ENNI 3FA 3GAH 3GBU 3HWAH 3I 3JO 3KA 3KPAH 3MBE 3O 3OO 3PA
    3SE 3TO 3U 3UWU 3VU 3WA 3WADDA 3YEIN 3YIE 3ZO 0BAT 0BATAK_CONSONANT_SIGN_H 3NG 1LETTER_A 2BA 2CA
    2DA 2GA 2HA 2I 2JA 2KARO_BA 2LA 2MA 2MANDAILING_HA 3NA 3SA 2MBA 2NA 2NDA 2NGA 2NORTHERN_TA 2NYA
    2PA 2PAKPAK_WA 2RA 2SA 2SIMALUNGUN_A 3GA 3HA 3LA 3MA 3PA 3RA 3SA 3WA 3YA 2SOUTHERN_TA 2U 2WA 2YA
    1PANGOLAT 1PANONGONAN 1SIGN_TOMPI 1SYMBOL_BINDU_JUDUL 3NA_METEK 3PANGOLAT 3PINARBORAS
    1VOWEL_SIGN_E 3EE 3I 3KARO_I 4O 3O 3PAKPAK_E 3U 4FOR_SIMALUNGUN_SA 0BATH 0BATHTUB 0BATTERY
    0BEACH_WITH_UMBRELLA 0BEAMED_ASCENDING_MUSICAL_NOTES 1DESCENDING_MUSICAL_NOTES 1EIGHTH_NOTES
    1SIXTEENTH_NOTES 0BEANS 0BEAR_FACE 0BEARDED_PERSON 0BEATING_HEART 0BEAVER 0BECAUSE 0BED
    0BEER_MUG 0BEETLE 0BEL 0BELL 1PEPPER 1SYMBOL 1WITH_CANCELLATION_STROKE 0BELLHOP_BELL
    0BENGALI_ABBREVIATION_SIGN 1ANJI 1AU_LENGTH_MARK 1CURRENCY_DENOMINATOR_SIXTEEN 2NUMERATOR_FOUR
    3ONE 4LESS_THAN_THE_DENOMINATOR 3THREE 3TWO 1DIGIT_EIGHT 2FIVE 2FOUR 2NINE 2ONE 2SEVEN 2SIX
    2THREE 2TWO 2ZERO 1GANDA_MARK 1ISSHAR 1LETTER_A 2AA 2AI 2AU 2BA 2BHA 2CA 2CHA 2DA 2DDA 2DDHA
    2DHA 2E 2GA 2GHA 2HA 2I 2II 2JA 2JHA 2KA 2KHA 2KHANDA_TA 2LA 2MA 2NA 2NGA 2NNA 2NYA 2O 2PA 2PHA
    2RA 3WITH_LOWER_DIAGONAL 4MIDDLE_DIAGONAL 2RHA 2RRA 2SA 2SHA 2SSA 2TA 2THA 2TTA 2TTHA 2U 2UU
    2VEDIC_ANUSVARA 2VOCALIC_L 3LL 3R 3RR 2YA 2YYA 1RUPEE_MARK 2SIGN 1SANDHI_MARK 1SIGN_ANUSVARA
    2AVAGRAHA 2CANDRABINDU 2NUKTA 2VIRAMA 2VISARGA 1VOWEL_SIGN_AA 3AI 3AU 3E 3I 3II 3O 3U 3UU
    3VOCALIC_L 4LL 4R 4RR 0BENT_ARROW_POINTING_DOWNWARDS_THEN_NORTH_EAST 0BENTO_BOX 0BENZENE_RING
    2WITH_CIRCLE 0BET_SYMBOL 0BETWEEN 0BEVERAGE_BOX 0BHAIKSUKI_DANDA 1DIGIT_EIGHT 2FIVE 2FOUR 2NINE
    2ONE 2SEVEN 2SIX 2THREE 2TWO 2ZERO 1DOUBLE_DANDA 1GAP_FILLER-1 2FILLER-2 1HUNDREDS_UNIT_MARK
    1LETTER_A 2AA 2AI 2AU 2BA 2BHA 2CA 2CHA 2DA 2DDA 2DDHA 2DHA 2E 2GA 2GHA 2HA 2I 2II 2JA 2JHA 2KA
    2KHA 2LA 2MA 2NA 2NGA 2NNA 2NYA 2O 2PA 2PHA 2RA 2SA 2SHA 2SSA 2TA 2THA 2TTA 2TTHA 2U 2UU 2VA
    2VOCALIC_L 3R 3RR 2YA 1NUMBER_EIGHT 2EIGHTY 2FIFTY 2FIVE 2FORTY 2FOUR 2NINE 2NINETY 2ONE 2SEVEN
    2SEVENTY 2SIX 2SIXTY 2TEN 2THIRTY 2THREE 2TWENTY 2TWO 1SIGN_ANUSVARA 2AVAGRAHA 2CANDRABINDU
    2VIRAMA 2VISARGA 1VOWEL_SIGN_AA 3AI 3AU 3E 3I 3II 3O 3U 3UU 3VOCALIC_L 4R 4RR 1WORD_SEPARATOR
    0BICYCLE 0BICYCLIST 0BIG_REVERSE_SOLIDUS 1SOLIDUS 0BIKINI 0BILLED_CAP 0BILLIARDS 0BIOHAZARD_SIGN
    0BIRD 0BIRTHDAY_CAKE 0BISON 0BITCOIN_SIGN 0BITING_LIP 0BLACK_BOWTIE 1CENTRE_WHITE_STAR
    1CHESS_BISHOP 3ROTATED_NINETY_DEGREES 4TWO_HUNDRED_SEVENTY_DEGREES 2EQUIHOPPER
    3ROTATED_NINETY_DEGREES 2KING 3ROTATED_NINETY_DEGREES 4TWO_HUNDRED_SEVENTY_DEGREES 2KNIGHT
    3ROTATED_FORTY-FIVE_DEGREES 4NINETY_DEGREES 4ONE_HUNDRED_THIRTY-FIVE_DEGREES
    4THREE_HUNDRED_FIFTEEN_DEGREES 4TWO_HUNDRED_SEVENTY_DEGREES 6TWENTY-FIVE_DEGREES 2KNIGHT-BISHOP
    2KNIGHT-QUEEN 2KNIGHT-ROOK 2PAWN 3ROTATED_NINETY_DEGREES 4TWO_HUNDRED_SEVENTY_DEGREES 2QUEEN
    3ROTATED_NINETY_DEGREES 4TWO_HUNDRED_SEVENTY_DEGREES 2ROOK 3ROTATED_NINETY_DEGREES
    4TWO_HUNDRED_SEVENTY_DEGREES 2TURNED_BISHOP 3KING 3KNIGHT 3PAWN 3QUEEN 3ROOK 1CIRCLE 2FOR_RECORD
    2WITH_DOWN_ARROW 3TWO_WHITE_DOTS 3WHITE_DOT_RIGHT 1CLUB_SUIT 1CROSS_ON_SHIELD
    1CURVED_DOWNWARDS_AND_LEFTWARDS_ARROW 4RIGHTWARDS_ARROW 2LEFTWARDS_AND_DOWNWARDS_ARROW
    4UPWARDS_ARROW 2RIGHTWARDS_AND_DOWNWARDS_ARROW 4UPWARDS_ARROW 2UPWARDS_AND_LEFTWARDS_ARROW
    4RIGHTWARDS_ARROW 1DIAMOND 2CENTRED 2MINUS_WHITE_X 2ON_CROSS 2SUIT 2WITH_DOWN_ARROW
    1DOWN_POINTING_BACKHAND_INDEX 1DOWN-POINTING_DOUBLE_TRIANGLE 2ISOSCELES_RIGHT_TRIANGLE
    2SMALL_TRIANGLE 2TRIANGLE 1DOWNWARDS_EQUILATERAL_ARROWHEAD 1DRAUGHTS_KING 2MAN 1DROPLET 1FLAG
    1FLORETTE 1FOLDER 1FOUR_POINTED_STAR 1HARD_SHELL_FLOPPY_DISK 1HEART 2SUIT 1HEXAGON
    1HORIZONTAL_ELLIPSE 1HOURGLASS 1LARGE_CIRCLE 2SQUARE 1LEFT_LANE_MERGE 2POINTING_BACKHAND_INDEX
    3INDEX 1LEFT-POINTING_DOUBLE_TRIANGLE 4WITH_VERTICAL_BAR 2ISOSCELES_RIGHT_TRIANGLE 2POINTER
    2SMALL_TRIANGLE 2TRIANGLE 1LEFTWARDS_BULLET 2EQUILATERAL_ARROWHEAD 1LOWER_LEFT_TRIANGLE
    2RIGHT_TRIANGLE 1LOZENGE 1MEDIUM_DIAMOND 2DOWN-POINTING_TRIANGLE 4CENTRED
    2LEFT-POINTING_TRIANGLE 4CENTRED 2LOZENGE 2RIGHT-POINTING_TRIANGLE 4CENTRED 2SMALL_DIAMOND
    3LOZENGE 3SQUARE 2SQUARE 2UP-POINTING_TRIANGLE 4CENTRED 1MOON_LILITH 1NIB 1OCTAGON
    1PARALLELOGRAM 1PENNANT 1PENTAGON 1PUSHPIN 1QUESTION_MARK_ORNAMENT 1RECTANGLE
    1RIGHT_POINTING_BACKHAND_INDEX 3INDEX 1RIGHT-POINTING_DOUBLE_TRIANGLE 4WITH_VERTICAL_BAR
    2ISOSCELES_RIGHT_TRIANGLE 2PENTAGON 2POINTER 2SMALL_TRIANGLE 2TRIANGLE 3WITH_DOUBLE_VERTICAL_BAR
    1RIGHTWARDS_ARROW 2ARROWHEAD 2BULLET 2EQUILATERAL_ARROWHEAD 1ROSETTE 1SAFETY_SCISSORS 1SCISSORS
    1SHOGI_PIECE 1SKULL_AND_CROSSBONES 1SLIGHTLY_SMALL_CIRCLE 3SQUARE 1SMALL_DIAMOND 2LOZENGE
    2SQUARE 2STAR 1SMILING_FACE 1SNOWMAN 1SPADE_SUIT 1SQUARE 2BUTTON 2CENTRED 2FOR_STOP 1STAR
    1SUN_WITH_RAYS 1TELEPHONE 1TINY_DIAMOND 2LOZENGE 2SQUARE 1TOUCHTONE_TELEPHONE 1TRUCK
    1TWO-WAY_LEFT_WAY_TRAFFIC 1UNIVERSAL_RECYCLING_SYMBOL 1UP_POINTING_BACKHAND_INDEX
    1UP-POINTING_DOUBLE_TRIANGLE 2ISOSCELES_RIGHT_TRIANGLE 2SMALL_TRIANGLE 2TRIANGLE
    1UPPER_LEFT_TRIANGLE 2RIGHT_TRIANGLE 1UPWARDS_EQUILATERAL_ARROWHEAD 1VERTICAL_ELLIPSE 2RECTANGLE
    1VERY_SMALL_DIAMOND 3LOZENGE 3SQUARE 0BLACK-FEATHERED_NORTH_EAST_ARROW 1RIGHTWARDS_ARROW
    1SOUTH_EAST_ARROW 0BLACK-LETTER_CAPITAL_C 2H 2I 2R 2Z 0BLANK_SYMBOL 0BLOCK_SEXTANT-1 1SEXTANT-12
    1SEXTANT-123 1SEXTANT-1234 1SEXTANT-12345 1SEXTANT-12346 1SEXTANT-1235 1SEXTANT-12356
    1SEXTANT-1236 1SEXTANT-124 1SEXTANT-1245 1SEXTANT-12456 1SEXTANT-1246 1SEXTANT-125 1SEXTANT-1256
    1SEXTANT-126 1SEXTANT-13 1SEXTANT-134 1SEXTANT-1345 1SEXTANT-13456 1SEXTANT-1346 1SEXTANT-1356
    1SEXTANT-136 1SEXTANT-14 1SEXTANT-145 1SEXTANT-1456 1SEXTANT-146 1SEXTANT-15 1SEXTANT-156
    1SEXTANT-16 1SEXTANT-2 1SEXTANT-23 1SEXTANT-234 1SEXTANT-2345 1SEXTANT-23456 1SEXTANT-2346
    1SEXTANT-235 1SEXTANT-2356 1SEXTANT-236 1SEXTANT-24 1SEXTANT-245 1SEXTANT-2456 1SEXTANT-25
    1SEXTANT-256 1SEXTANT-26 1SEXTANT-3 1SEXTANT-34 1SEXTANT-345 1SEXTANT-3456 1SEXTANT-346
    1SEXTANT-35 1SEXTANT-356 1SEXTANT-36 1SEXTANT-4 1SEXTANT-45 1SEXTANT-456 1SEXTANT-46 1SEXTANT-5
    1SEXTANT-56 1SEXTANT-6 0BLOSSOM 0BLOWFISH 0BLUE_BOOK 1HEART 0BLUEBERRIES 0BOAR
    0BOLD_EIGHT_SPOKED_ASTERISK 1FIVE_SPOKED_ASTERISK 1GREEK_CROSS 1SALTIRE 1SIX_SPOKED_ASTERISK
    1WHITE_CIRCLE 2SQUARE 0BOM 0BOMB 0BONE 0BOOK 0BOOKMARK 1TABS 0BOOKS 0BOOMERANG
    0BOPOMOFO_FINAL_LETTER_G 3H 3K 3P 3T 1LETTER_A 2AH 2AI 2AINN 2AM 2AN 2ANG 2ANN 2AU 2AUNN 2B 2BU
    2C 2CH 2D 2E 2EE 2EH 2EI 2EN 2ENG 2ENN 2ER 2F 2G 2GH 2GN 2GU 2GW 2H 2I 2IH 2IM 2INN 2INNN 2IR
    2IU 2J 2JI 2K 2KW 2L 2LH 2M 2N 2NG 2NGG 2NN 2O 3WITH_DOT_ABOVE 2OE 2OM 2ONG 2ONN 2OO 2OU 2P 2Q
    2R 2S 2SH 2T 2U 2UNN 2V 2X 2Z 2ZH 2ZI 2ZY 0BOTTLE_WITH_POPPING_CORK
    0BOTTOM_ARC_ANTICLOCKWISE_ARROW 1CURLY_BRACKET 1HALF_BLACK_CIRCLE 2INTEGRAL 2LEFT_PARENTHESIS
    2RIGHT_PARENTHESIS 1LEFT_CORNER 2CROP 2HALF_BRACKET 1PARENTHESIS 1RIGHT_CORNER 2CROP
    2HALF_BRACKET 1SQUARE_BRACKET 3OVER_TOP_SQUARE_BRACKET 1TORTOISE_SHELL_BRACKET 0BOUQUET
    1OF_FLOWERS 0BOW_AND_ARROW 0BOWL_OF_HYGIEIA 1WITH_SPOON 0BOWLING 0BOWTIE 1WITH_LEFT_HALF_BLACK
    2RIGHT_HALF_BLACK 0BOX_DRAWINGS_DOUBLE_DOWN_AND_HORIZONTAL 5LEFT 5RIGHT 3HORIZONTAL
    3UP_AND_HORIZONTAL 5LEFT 5RIGHT 3VERTICAL 4AND_HORIZONTAL 5LEFT 5RIGHT
    2DOWN_DOUBLE_AND_HORIZONTAL_SINGLE 5LEFT_SINGLE 5RIGHT_SINGLE 3HEAVY_AND_HORIZONTAL_LIGHT
    5LEFT_LIGHT 6UP_LIGHT 5RIGHT_LIGHT 6UP_LIGHT 5UP_HORIZONTAL_LIGHT 3LIGHT_AND_HORIZONTAL_HEAVY
    5LEFT_HEAVY 6UP_HEAVY 5RIGHT_HEAVY 6UP_HEAVY 5UP_HORIZONTAL_HEAVY 3SINGLE_AND_HORIZONTAL_DOUBLE
    5LEFT_DOUBLE 5RIGHT_DOUBLE 2HEAVY_DOUBLE_DASH_HORIZONTAL 5VERTICAL 3DOWN 4AND_HORIZONTAL 5LEFT
    5RIGHT 3HORIZONTAL 3LEFT 4AND_LIGHT_RIGHT 3QUADRUPLE_DASH_HORIZONTAL 5VERTICAL 3RIGHT
    3TRIPLE_DASH_HORIZONTAL 5VERTICAL 3UP 4AND_HORIZONTAL 5LEFT 5LIGHT_DOWN 5RIGHT 3VERTICAL
    4AND_HORIZONTAL 5LEFT 5RIGHT 2LEFT_DOWN_HEAVY_AND_RIGHT_UP_LIGHT 3HEAVY_AND_RIGHT_DOWN_LIGHT
    6UP_LIGHT 6VERTICAL_LIGHT 3LIGHT_AND_RIGHT_DOWN_HEAVY 6UP_HEAVY 6VERTICAL_HEAVY
    3UP_HEAVY_AND_RIGHT_DOWN_LIGHT 2LIGHT_ARC_DOWN_AND_LEFT 6RIGHT 4UP_AND_LEFT 6RIGHT
    3DIAGONAL_CROSS 4DIAMOND 4MIDDLE_LEFT_TO_LOWER_CENTRE 9TO_MIDDLE_RIGHT
    7UPPER_CENTRE_TO_MIDDLE_RIGHT cTO_LOWER_CENTRE 5RIGHT_TO_LOWER_CENTRE
    7UPPER_CENTRE_TO_MIDDLE_LEFT_TO_LOWER_CENTRE 4UPPER_CENTRE_TO_MIDDLE_LEFT
    9AND_MIDDLE_RIGHT_TO_LOWER_CENTRE 9TO_LOWER_CENTRE cTO_MIDDLE_RIGHT 8RIGHT
    9AND_MIDDLE_LEFT_TO_LOWER_CENTRE 9TO_LOWER_CENTRE cTO_MIDDLE_LEFT 5LEFT_TO_LOWER_RIGHT
    5RIGHT_TO_LOWER_LEFT 3DOUBLE_DASH_HORIZONTAL 5VERTICAL 3DOWN 4AND_HORIZONTAL 5LEFT 5RIGHT
    3HORIZONTAL 4WITH_VERTICAL_STROKE 3LEFT 4AND_HEAVY_RIGHT 3QUADRUPLE_DASH_HORIZONTAL 5VERTICAL
    3RIGHT 3TRIPLE_DASH_HORIZONTAL 5VERTICAL 3UP 4AND_HEAVY_DOWN 5HORIZONTAL 5LEFT 5RIGHT 3VERTICAL
    4AND_HORIZONTAL 5LEFT 5RIGHT 2RIGHT_DOWN_HEAVY_AND_LEFT_UP_LIGHT 3HEAVY_AND_LEFT_DOWN_LIGHT
    6UP_LIGHT 6VERTICAL_LIGHT 3LIGHT_AND_LEFT_DOWN_HEAVY 6UP_HEAVY 6VERTICAL_HEAVY
    3UP_HEAVY_AND_LEFT_DOWN_LIGHT 2UP_DOUBLE_AND_HORIZONTAL_SINGLE 5LEFT_SINGLE 5RIGHT_SINGLE
    3HEAVY_AND_DOWN_HORIZONTAL_LIGHT 5HORIZONTAL_LIGHT 5LEFT_DOWN_LIGHT 6LIGHT 5RIGHT_DOWN_LIGHT
    6LIGHT 3LIGHT_AND_DOWN_HORIZONTAL_HEAVY 5HORIZONTAL_HEAVY 5LEFT_DOWN_HEAVY 6HEAVY
    5RIGHT_DOWN_HEAVY 6HEAVY 3SINGLE_AND_HORIZONTAL_DOUBLE 5LEFT_DOUBLE 5RIGHT_DOUBLE
    2VERTICAL_DOUBLE_AND_HORIZONTAL_SINGLE 5LEFT_SINGLE 5RIGHT_SINGLE 3HEAVY_AND_HORIZONTAL_LIGHT
    5LEFT_LIGHT 5RIGHT_LIGHT 3LIGHT_AND_HORIZONTAL_HEAVY 5LEFT_HEAVY 5RIGHT_HEAVY
    3SINGLE_AND_HORIZONTAL_DOUBLE 5LEFT_DOUBLE 5RIGHT_DOUBLE 0BOXING_GLOVE 0BOY 0BOYS_SYMBOL 0BPH
    0BRAHMI_DANDA 1DIGIT_EIGHT 2FIVE 2FOUR 2NINE 2ONE 2SEVEN 2SIX 2THREE 2TWO 2ZERO 1DOUBLE_DANDA
    1LETTER_A 2AA 2AI 2AU 2BA 2BHA 2CA 2CHA 2DA 2DDA 2DDHA 2DHA 2E 2GA 2GHA 2HA 2I 2II 2JA 2JHA 2KA
    2KHA 2LA 2LLA 2MA 2NA 2NGA 2NNA 2NYA 2O 2OLD_TAMIL_LLA 4LLLA 4NNNA 4RRA 4SHORT_E 5O 2PA 2PHA 2RA
    2SA 2SHA 2SSA 2TA 2THA 2TTA 2TTHA 2U 2UU 2VA 2VOCALIC_L 3LL 3R 3RR 2YA 1NUMBER_EIGHT 2EIGHTY
    2FIFTY 2FIVE 2FORTY 2FOUR 2JOINER 2NINE 2NINETY 2ONE 3HUNDRED 3THOUSAND 2SEVEN 2SEVENTY 2SIX
    2SIXTY 2TEN 2THIRTY 2THREE 2TWENTY 2TWO 1PUNCTUATION_CRESCENT_BAR 2DOT 2DOUBLE_DOT 2LINE 2LOTUS
    1SIGN_ANUSVARA 2CANDRABINDU 2JIHVAMULIYA 2OLD_TAMIL_VIRAMA 2UPADHMANIYA 2VISARGA 1VIRAMA
    1VOWEL_SIGN_AA 3AI 3AU 3BHATTIPROLU_AA 3E 3I 3II 3O 3OLD_TAMIL_SHORT_E 6O 3U 3UU 3VOCALIC_L 4LL
    4R 4RR 0BRAILLE_PATTERN_BLANK 2DOTS-1 2DOTS-12 2DOTS-123 2DOTS-1234 2DOTS-12345 2DOTS-123456
    2DOTS-1234567 2DOTS-12345678 2DOTS-1234568 2DOTS-123457 2DOTS-1234578 2DOTS-123458 2DOTS-12346
    2DOTS-123467 2DOTS-1234678 2DOTS-123468 2DOTS-12347 2DOTS-123478 2DOTS-12348 2DOTS-1235
    2DOTS-12356 2DOTS-123567 2DOTS-1235678 2DOTS-123568 2DOTS-12357 2DOTS-123578 2DOTS-12358
    2DOTS-1236 2DOTS-12367 2DOTS-123678 2DOTS-12368 2DOTS-1237 2DOTS-12378 2DOTS-1238 2DOTS-124
    2DOTS-1245 2DOTS-12456 2DOTS-124567 2DOTS-1245678 2DOTS-124568 2DOTS-12457 2DOTS-124578
    2DOTS-12458 2DOTS-1246 2DOTS-12467 2DOTS-124678 2DOTS-12468 2DOTS-1247 2DOTS-12478 2DOTS-1248
    2DOTS-125 2DOTS-1256 2DOTS-12567 2DOTS-125678 2DOTS-12568 2DOTS-1257 2DOTS-12578 2DOTS-1258
    2DOTS-126 2DOTS-1267 2DOTS-12678 2DOTS-1268 2DOTS-127 2DOTS-1278 2DOTS-128 2DOTS-13 2DOTS-134
    2DOTS-1345 2DOTS-13456 2DOTS-134567 2DOTS-1345678 2DOTS-134568 2DOTS-13457 2DOTS-134578
    2DOTS-13458 2DOTS-1346 2DOTS-13467 2DOTS-134678 2DOTS-13468 2DOTS-1347 2DOTS-13478 2DOTS-1348
    2DOTS-135 2DOTS-1356 2DOTS-13567 2DOTS-135678 2DOTS-13568 2DOTS-1357 2DOTS-13578 2DOTS-1358
    2DOTS-136 2DOTS-1367 2DOTS-13678 2DOTS-1368 2DOTS-137 2DOTS-1378 2DOTS-138 2DOTS-14 2DOTS-145
    2DOTS-1456 2DOTS-14567 2DOTS-145678 2DOTS-14568 2DOTS-1457 2DOTS-14578 2DOTS-1458 2DOTS-146
    2DOTS-1467 2DOTS-14678 2DOTS-1468 2DOTS-147 2DOTS-1478 2DOTS-148 2DOTS-15 2DOTS-156 2DOTS-1567
    2DOTS-15678 2DOTS-1568 2DOTS-157 2DOTS-1578 2DOTS-158 2DOTS-16 2DOTS-167 2DOTS-1678 2DOTS-168
    2DOTS-17 2DOTS-178 2DOTS-18 2DOTS-2 2DOTS-23 2DOTS-234 2DOTS-2345 2DOTS-23456 2DOTS-234567
    2DOTS-2345678 2DOTS-234568 2DOTS-23457 2DOTS-234578 2DOTS-23458 2DOTS-2346 2DOTS-23467
    2DOTS-234678 2DOTS-23468 2DOTS-2347 2DOTS-23478 2DOTS-2348 2DOTS-235 2DOTS-2356 2DOTS-23567
    2DOTS-235678 2DOTS-23568 2DOTS-2357 2DOTS-23578 2DOTS-2358 2DOTS-236 2DOTS-2367 2DOTS-23678
    2DOTS-2368 2DOTS-237 2DOTS-2378 2DOTS-238 2DOTS-24 2DOTS-245 2DOTS-2456 2DOTS-24567 2DOTS-245678
    2DOTS-24568 2DOTS-2457 2DOTS-24578 2DOTS-2458 2DOTS-246 2DOTS-2467 2DOTS-24678 2DOTS-2468
    2DOTS-247 2DOTS-2478 2DOTS-248 2DOTS-25 2DOTS-256 2DOTS-2567 2DOTS-25678 2DOTS-2568 2DOTS-257
    2DOTS-2578 2DOTS-258 2DOTS-26 2DOTS-267 2DOTS-2678 2DOTS-268 2DOTS-27 2DOTS-278 2DOTS-28 2DOTS-3
    2DOTS-34 2DOTS-345 2DOTS-3456 2DOTS-34567 2DOTS-345678 2DOTS-34568 2DOTS-3457 2DOTS-34578
    2DOTS-3458 2DOTS-346 2DOTS-3467 2DOTS-34678 2DOTS-3468 2DOTS-347 2DOTS-3478 2DOTS-348 2DOTS-35
    2DOTS-356 2DOTS-3567 2DOTS-35678 2DOTS-3568 2DOTS-357 2DOTS-3578 2DOTS-358 2DOTS-36 2DOTS-367
    2DOTS-3678 2DOTS-368 2DOTS-37 2DOTS-378 2DOTS-38 2DOTS-4 2DOTS-45 2DOTS-456 2DOTS-4567
    2DOTS-45678 2DOTS-4568 2DOTS-457 2DOTS-4578 2DOTS-458 2DOTS-46 2DOTS-467 2DOTS-4678 2DOTS-468
    2DOTS-47 2DOTS-478 2DOTS-48 2DOTS-5 2DOTS-56 2DOTS-567 2DOTS-5678 2DOTS-568 2DOTS-57 2DOTS-578
    2DOTS-58 2DOTS-6 2DOTS-67 2DOTS-678 2DOTS-68 2DOTS-7 2DOTS-78 2DOTS-8 0BRAIN 0BREAD
    0BREAK_PERMITTED_HERE 0BREAST-FEEDING 0BREVE 0BRICK 0BRIDE_WITH_VEIL 0BRIDGE_AT_NIGHT 0BRIEFCASE
    0BRIEFS 0BROCCOLI 0BROKEN_BAR 1CIRCLE_WITH_NORTHWEST_ARROW 1HEART 0BROOM 0BROWN_HEART 0BS
    0BUBBLE_TEA 0BUBBLES 0BUCKET 0BUG 0BUGINESE_END_OF_SECTION 1LETTER_A 2BA 2CA 2DA 2GA 2HA 2JA 2KA
    2LA 2MA 2MPA 2NA 2NGA 2NGKA 2NRA 2NYA 2NYCA 2PA 2RA 2SA 2TA 2VA 2YA 1PALLAWA 1VOWEL_SIGN_AE 3E
    3I 3O 3U 0BUHID_LETTER_A 2BA 2DA 2GA 2HA 2I 2KA 2LA 2MA 2NA 2NGA 2PA 2RA 2SA 2TA 2U 2WA 2YA
    1VOWEL_SIGN_I 3U 0BUILDING_CONSTRUCTION 0BULLET 1OPERATOR 0BULLHORN 1WITH_SOUND_WAVES 0BULLSEYE
    0BURRITO 0BUS 1STOP 0BUST_IN_SILHOUETTE 0BUSTS_IN_SILHOUETTE 0BUTTER 0BUTTERFLY 0BYTE_ORDER_MARK
    0BYZANTINE_MUSICAL_SYMBOL_AGOGI_ARGI 4ARGOTERI 4GORGI 4GORGOTERI 4MESI 4METRIA 4POLI_ARGI 5GORGI
    3ANATRICHISMA 3ANTIKENOKYLISMA 3ANTIKENOMA 3APESO_EKFONITIKON 4EXO_NEO 3APLI 3APODERMA_ARCHAION
    4NEO 3APOSTROFOI_SYNDESMOS_NEO 4TELOUS_ICHIMATOS 3APOSTROFOS 4DIPLI 4NEO 3APOTHEMA 3ARGON
    3ARGOSYNTHETON 3ARKTIKO_DI 4GA 4KE 4NI 4PA 4VOU 4ZO 3CHAMILI 3CHAMILON 3CHOREVMA_ARCHAION 4NEO
    3CHROA_KLITON 4SPATHI 4ZYGOS 3DASEIA 3DIARGON 3DIASTOLI_APLI_MEGALI 5MIKRI 4DIPLI 4THESEOS
    3DIESIS_APLI_DYO_DODEKATA 4DIGRAMMOS_EX_DODEKATA 4MONOGRAMMOS_TESSERA_DODEKATA 4TETARTIMORION
    4TRIGRAMMOS_OKTO_DODEKATA 4TRITIMORION 3DIFTOGGOS_OU 3DIGORGON 4PARESTIGMENON_ARISTERA_ANO 6KATO
    5DEXIA 3DIGRAMMA_GG 3DIPLI 4ARCHAION 3DYO 3EKSTREPTON 3ELAFRON 3ENARXIS_KAI_FTHORA_VOU
    3ENDOFONON 3EPEGERMA 3ETERON_ARGOSYNTHETON 4PARAKALESMA 3EXO_EKFONITIKON 3FANEROSIS_DIFONIAS
    4MONOFONIAS 4TETRAFONIAS 3FHTORA_SKLIRON_CHROMA_VASIS 3FTHORA_ARCHAION 5DEYTEROU_ICHOU
    4DIATONIKI_DI 5KE 5NANA 5NI_ANO 6KATO 5PA 5ZO 4ENARMONIOS_ANTIFONIA 4I_YFESIS_TETARTIMORION
    4MALAKON_CHROMA_DIFONIAS 6MONOFONIAS 4NAOS_ICHOS 4NENANO 4SKLIRON_CHROMA_SYNAFI 6VASIS
    5DIATONON_DI 3GENIKI_DIESIS 4YFESIS 3GORGON_ARCHAION 4NEO_ANO 5KATO 4PARESTIGMENON_ARISTERA
    5DEXIA 3GORGOSYNTHETON 3GORTHMIKON_N_APLOUN 5DIPLOUN 3GRONTHISMATA 3ICHADIN 3IMIDIARGON
    3IMIFONON 3IMIFTHORA 3IMIFTHORON 3ISAKIA_TELOUS_ICHIMATOS 3ISON_ARCHAION 4NEO 3KATAVA_TROMIKON
    3KATAVASMA 3KATHISTI 3KENTIMA_ARCHAION 4NEO_ANO 5KATO 5MESO 3KENTIMATA 4ARCHAION 4NEO_ANO 5KATO
    5MESO 3KLASMA 4ANO 4KATO 3KONTEVMA 4ALLO 3KORONIS 3KOUFISMA 3KRATIMA_ALLO 4ARCHAION 4NEO
    3KRATIMATA 3KRATIMOKOUFISMA 3KRATIMOYPORROON 3KREMASTI 3KYLISMA 3LEIMMA_DYO_CHRONON
    4ENOS_CHRONOU 4IMISEOS_CHRONOU 4TESSARON_CHRONON 4TRION_CHRONON 3LEMOI 3LYGISMA
    3MARTYRIA_ALLI_DEYTEROS_ICHOS 5PROTOS_ICHOS 4DEYTEROS_ICHOS 4LEGETOS_ICHOS 4PLAGIOS_ICHOS
    5TETARTOS_ICHOS 4PROTOS_ICHOS 4PROTOVARYS_ICHOS 4TETARTOS_ICHOS 5LEGETOS_ICHOS 4TRIFONIAS
    4TRITOS_ICHOS 4VARYS_ICHOS 3MIKRON_ISON 3NANA 3OLIGON_ARCHAION 4NEO 3OMALON 3OXEIA_DIPLI
    4EKFONITIKON 4NEO 3OXEIAI_ARCHAION 3OYRANISMA_ARCHAION 4NEO 3PARAKALESMA_ARCHAION 4NEO
    3PARAKLITIKI 4ARCHAION 4NEO 3PARICHON 3PELASTON 4NEO 3PERISPOMENI 3PETASMA 3PETASTI
    3PETASTOKOUFISMA 3PIASMA_ARCHAION 4NEO 3PSIFISTOLYGISMA 3PSIFISTON 4NEO 3PSIFISTOPARAKALESMA
    3PSIFISTOSYNAGMA 3PSILI 3PSILON 3RAPISMA 3REVMA 3SAXIMATA 3SEISMA 4NEO 3SIMANSIS_ARSEOS 5DISIMOU
    5TETRASIMOU 5TRISIMOU 4THESEOS 5DISIMOU 5TETRASIMOU 5TRISIMOU 3STAVROS 4APODEXIA 3STIGMA
    3STRAGGISMATA 3SYNAGMA_ARCHAION 4META_STAVROU 4NEO 3SYNEVMA 3SYRMA 3SYRMATIKI 3TELEIA 3TESSERA
    3TETRAPLI 3THEMA 4APLOUN 3THEMATISMOS_ESO 4EXO 3THES_KAI_APOTHES 3THITA 3TINAGMA 3TRIA
    3TRIGORGON 3TRIPLI 3TROMIKOLYGISMA 3TROMIKON_ALLO 4ARCHAION 4NEO 3TROMIKOPARAKALESMA
    3TROMIKOPSIFISTON 3TROMIKOSYNAGMA 3VAREIA_DIPLI 4EKFONITIKON 4NEO 3VAREIAI_ARCHAION 3VATHY
    3XIRON_KLASMA 3YFEN_ANO 4KATO 3YFESIS_APLI_DYO_DODEKATA 4DIGRAMMOS_EX_DODEKATA
    4MONOGRAMMOS_TESSERA_DODEKATA 4TRIGRAMMOS_OKTO_DODEKATA 4TRITIMORION 3YPOKRISIS 4DIPLI 3YPORROI
    3YPSILI
    "),
    ('C', "
    0CACTUS 0CADA_UNA 0CADUCEUS 0CALENDAR 0CALL_ME_HAND 0CAMERA 1WITH_FLASH 0CAMPING 0CAN
    0CANADIAN_SYLLABICS_A 2AA 2AAI 2AAY 2AI 2AIVILIK_B 2AN 2ATHAPASCAN_M 3S 2AY 2BEAVER_DENE_L 4R
    2BIBLE-CREE_Y 2BLACKFOOT_A 3E 3I 3KA 3KE 3KI 3KO 3NA 3NE 3NI 3NO 3O 3S 3W 3WA 3WE 3WI 3WO 2C 2CA
    2CAA 2CAAI 2CARRIER_CHA 3CHE 3CHEE 3CHI 3CHO 3CHU 3DEE 3DENE_GEE 3DENTAL_S 3DI 3DLA 3DLE 3DLEE
    3DLI 3DLO 3DLU 3DZA 3DZE 3DZEE 3DZI 3DZO 3DZU 3EE 3GA 3GAA 3GE 3GEE 3GHA 3GHE 3GHEE 3GHI 3GHO
    3GHU 3GI 3GO 3GU 3GWA 3GWU 3H 3HEE 3HI 3HWA 3HWE 3HWEE 3HWI 3HWO 3HWU 3I 3INITIAL_Z 3JA 3JE 3JEE
    3JI 3JJA 3JJE 3JJEE 3JJI 3JJO 3JJU 3JO 3JU 3JWA 3KHA 3KHE 3KHEE 3KHI 3KHO 3KHU 3KK 3KKA 3KKE
    3KKEE 3KKI 3KKO 3KKU 3LA 3LE 3LEE 3LHA 3LHE 3LHEE 3LHI 3LHO 3LHU 3LI 3LO 3LU 3MA 3ME 3MEE 3MI
    3MO 3MU 3NA 3NE 3NEE 3NG 3NI 3NO 3NU 3P 3PA 3PE 3PEE 3PI 3PO 3PU 3RA 3RE 3REE 3RI 3RO 3RU 3SA
    3SE 3SEE 3SH 3SHA 3SHE 3SHEE 3SHI 3SHO 3SHU 3SI 3SO 3SU 3THA 3THE 3THEE 3THI 3THO 3THU 3TLA 3TLE
    3TLEE 3TLHA 3TLHE 3TLHEE 3TLHI 3TLHO 3TLHU 3TLI 3TLO 3TLU 3TSA 3TSE 3TSEE 3TSI 3TSO 3TSU 3TTA
    3TTE 3TTEE 3TTI 3TTO 3TTSA 3TTSE 3TTSEE 3TTSI 3TTSO 3TTSU 3TTU 3WA 3WE 3WEE 3WI 3WO 3WU 3YA 3YE
    3YEE 3YI 3YO 3YU 3Z 3ZA 3ZE 3ZEE 3ZI 3ZO 3ZU 2CE 2CHI_SIGN 2CI 2CII 2CO 2COO 2CWA 2CWAA 2CWE
    2CWI 2CWII 2CWO 2CWOO 2E 2EASTERN_W 2EN 2F 2FA 2FAA 2FAAI 2FE 2FI 2FII 2FINAL_ACUTE
    3BOTTOM_HALF_RING 3DOUBLE_ACUTE 4SHORT_VERTICAL_STROKES 3DOWN_TACK 3GRAVE 3MIDDLE_DOT 3PLUS
    3RAISED_DOT 3RIGHT_HALF_RING 3RING 3SHORT_HORIZONTAL_STROKE 3SMALL_RING 3TOP_HALF_RING 2FO 2FOO
    2FULL_STOP 2FWAA 2GLOTTAL_STOP 2HK 2HYPHEN 2I 2II 2IN 2K 2KA 2KAA 2KAAI 2KAY 2KE 2KI 2KII 2KO
    2KOO 2KW 2KWA 2KWAA 2KWAY 2KWE 2KWI 2KWII 2KWO 2KWOO 2L 2LA 2LAA 2LAAI 2LAY 2LE 2LH 2LHA 2LHAA
    2LHI 2LHII 2LHO 2LHOO 2LI 2LII 2LO 2LOO 2LWA 2LWAA 2LWE 2LWI 2LWII 2LWO 2LWOO 2M 2MA 2MAA 2MAAI
    2MAY 2ME 2MEDIAL_L 3R 2MH 2MI 2MII 2MO 2MOO 2MOOSE-CREE_SK 2MWA 2MWAA 2MWE 2MWI 2MWII 2MWO 2MWOO
    2N 2N-CREE_THE 3THI 3THII 2NA 2NAA 2NAAI 2NASKAPI_CWAA 3KWAA 3MWAA 3NWAA 3S-W 3SCWA 3SKW 3SKWA
    3SPWA 3STWA 3SWAA 3TWAA 3WAA 3WOO 3YWAA 2NATTILIK_HA 3HAA 3HI 3HII 3HO 3HOO 3SHRA 3SHRAA 3SHRI
    3SHRII 3SHRO 3SHROO 2NAY 2NE 2NG 2NGA 2NGAA 2NGAAI 2NGAI 2NGI 2NGII 2NGO 2NGOO 2NH 2NI 2NII 2NNG
    2NNGA 2NNGAA 2NNGI 2NNGII 2NNGO 2NNGOO 2NO 2NOO 2NOY 2NUNAVIK_H 3HA 3HAA 3HE 3HI 3HII 3HO 3HOO
    2NUNAVUT_H 2NWA 2NWAA 2NWE 2NWI 2NWII 2NWO 2NWOO 2O 2OJIBWAY_C 3K 3M 3N 3NWI 3NWII 3NWO 3NWOO 3P
    3S 3SH 3T 2ON 2OO 2OY 2P 2PA 2PAA 2PAAI 2PAY 2PE 2PI 2PII 2PO 2POO 2POY 2PWA 2PWAA 2PWE 2PWI
    2PWII 2PWO 2PWOO 2PWOY 2Q 2QA 2QAA 2QAAI 2QAI 2QI 2QII 2QO 2QOO 2R 2R-CREE_RE 3RWE 2RA 2RAA
    2RAAI 2RAY 2RE 2RI 2RII 2RO 2ROO 2RWA 2RWAA 2RWEE 2RWI 2RWII 2RWO 2RWOO 2S 2SA 2SAA 2SAAI 2SAY
    2SAYISI_HA 3HE 3HI 3HO 3HOO 3JI 3JU 3JUU 3M 3SHA 3SHE 3SHI 3SHO 3SHOO 3SHWE 3TH 3YI 2SE 2SH 2SHA
    2SHAA 2SHAY 2SHE 2SHI 2SHII 2SHO 2SHOO 2SHOY 2SHWA 2SHWAA 2SHWE 2SHWI 2SHWII 2SHWO 2SHWOO 2SHWOY
    2SI 2SII 2SO 2SOO 2SOUTH-SLAVEY_KAH 3KEH 3KIH 3KOH 2SOY 2SPA 2SPE 2SPI 2SPO 2SW 2SWA 2SWAA 2SWE
    2SWI 2SWII 2SWO 2SWOO 2T 2TA 2TAA 2TAAI 2TAY 2TE 2TH 2TH-CREE_TH 3THA 3THAA 3THE 3THI 3THII 3THO
    3THOO 2THA 2THAA 2THE 2THI 2THII 2THO 2THOO 2THWA 2THWAA 2THWE 2TI 2TII 2TLHA 2TLHE 2TLHI 2TLHO
    2TLHOO 2TLHWE 2TO 2TOO 2TTA 2TTE 2TTH 2TTHA 2TTHAA 2TTHE 2TTHI 2TTHO 2TTHOO 2TTHWE 2TTI 2TTO
    2TWA 2TWAA 2TWE 2TWI 2TWII 2TWO 2TWOO 2TYA 2TYE 2TYI 2TYO 2WA 2WAA 2WAY 2WE 2WEST-CREE_CWA 3CWAA
    3CWE 3CWI 3CWII 3CWO 3CWOO 3FWAA 3KWA 3KWAA 3KWE 3KWI 3KWII 3KWO 3KWOO 3L 3LA 3LAA 3LE 3LO 3LOO
    3LWA 3LWAA 3LWE 3LWI 3LWII 3LWO 3LWOO 3M 3MWA 3MWAA 3MWE 3MWI 3MWII 3MWO 3MWOO 3NWA 3NWAA 3NWE
    3P 3PWA 3PWAA 3PWE 3PWI 3PWII 3PWO 3PWOO 3R 3RA 3RE 3RI 3RO 3RWAA 3SHWA 3SHWAA 3SHWE 3SHWI
    3SHWII 3SHWO 3SHWOO 3SWA 3SWAA 3SWE 3SWI 3SWII 3SWO 3SWOO 3THWAA 3TWA 3TWAA 3TWE 3TWI 3TWII 3TWO
    3TWOO 3WA 3WAA 3WE 3WI 3WII 3WO 3WOO 3Y 3YWA 3YWAA 3YWE 3YWI 3YWII 3YWO 3YWOO 2WESTERN_W 2WI
    2WII 2WO 2WOO 2WOODS-CREE_FINAL_TH 3TH 3THA 3THE 3THI 3THO 3THWA 3THWAA 3THWEE 3THWI 3THWII
    3THWO 3THWOO 2Y 2Y-CREE_COO 3KOO 3LOO 3MOO 3NOO 3OO 3POO 3PWAA 3SOO 3TOO 3W 3YOO 2YA 2YAA 2YAAI
    2YAY 2YE 2YI 2YII 2YO 2YOO 2YOY 2YWA 2YWAA 2YWE 2YWI 2YWII 2YWO 2YWOO 0CANCEL 1CHARACTER 1TAG
    0CANCELLATION_X 0CANCER 0CANDLE 0CANDY 0CANNED_FOOD 0CANOE 0CAPITULUM 0CAPRICORN 0CAR_SLIDING
    0CARD_FILE_BOX 1INDEX 2DIVIDERS 0CARE_OF 0CARET 1INSERTION_POINT 0CARIAN_LETTER_A 2A2 2B 2C-18
    2C-39 2D 2D2 2E 2E2 2G 2G2 2I 2II 2K 2K2 2L 2LD 2LD2 2M 2MB 2MB2 2MB3 2MB4 2N 2ND 2NG 2NN 2O 2P
    2P2 2Q 2R 2RR 2S 2SH 2SH2 2SS 2ST 2ST2 2T 2TT 2TT2 2U 2UU 2UUU 2UUU2 2UUU3 2UUUU 2X 0CARON
    0CAROUSEL_HORSE 0CARP_STREAMER 0CARPENTRY_SAW 0CARRIAGE_RETURN 0CARROT 0CASTLE 0CAT 1FACE
    2WITH_TEARS_OF_JOY 3WRY_SMILE 0CAUCASIAN_ALBANIAN_CITATION_MARK 2LETTER_ALT 3AOR 3BET 3CAR 3CAYN
    3CHA 3CHAT 3CHI 3CHOY 3CYAW 3CYAY 3DAT 3DYAN 3DZAY 3DZYAY 3EB 3EYN 3FAM 3GHEYS 3GIM 3HEYT 3INYA
    3IRB 3IWN 3JAYN 3JHOX 3KAR 3KIW 3LAN 3LYIT 3MAQ 3NOWC 3ON 3PEN 3PIWR 3QAR 3QAY 3RAT 3SEYK 3SHA
    3SHAK 3SHOY 3TAS 3TIWR 3TYAY 3VEYZ 3XEYN 3YAYD 3YOWD 3ZARL 3ZHA 3ZHIL 0CAUTION_SIGN 0CCH
    0CEDI_SIGN 0CEDILLA 0CELTIC_CROSS 0CENT_SIGN 0CENTRE_LINE_SYMBOL 0CENTRELINE_LOW_LINE 1OVERLINE
    0CERES 0CGJ 0CHAINS 0CHAIR 0CHAKMA_AU_MARK 1DANDA 1DIGIT_EIGHT 2FIVE 2FOUR 2NINE 2ONE 2SEVEN
    2SIX 2THREE 2TWO 2ZERO 1DOUBLE_DANDA 1LETTER_AA 2BAA 2BHAA 2CAA 2CHAA 2DAA 2DDAA 2DDHAA 2DHAA 2E
    2GAA 2GHAA 2HAA 2I 2JAA 2JHAA 2KAA 2KHAA 2LAA 2LHAA 2MAA 2NAA 2NGAA 2NNAA 2NYAA 2PAA 2PHAA 2RAA
    2SAA 2TAA 2THAA 2TTAA 2TTHAA 2U 2VAA 2WAA 2YAA 2YYAA 1MAAYYAA 1O_MARK 1QUESTION_MARK
    1SECTION_MARK 1SIGN_ANUSVARA 2CANDRABINDU 2VISARGA 1VIRAMA 1VOWEL_SIGN_A 3AA 3AI 3AU 3E 3EI 3I
    3II 3O 3OI 3U 3UU 0CHAM_CONSONANT_SIGN_FINAL_H 4M 4NG 3LA 3RA 3WA 3YA 1DIGIT_EIGHT 2FIVE 2FOUR
    2NINE 2ONE 2SEVEN 2SIX 2THREE 2TWO 2ZERO 1LETTER_A 2AI 2BA 2BBA 2BHA 2CHA 2CHHA 2DA 2DDA 2DHA 2E
    2FINAL_CH 3G 3K 3L 3N 3NG 3P 3R 3SS 3T 3Y 2GA 2GHA 2HA 2I 2JA 2JHA 2KA 2KHA 2LA 2MA 2MUE 2NA
    2NGA 2NGUE 2NHA 2NHJA 2NHUE 2NUE 2O 2PA 2PHA 2PPA 2RA 2SA 2SSA 2TA 2THA 2U 2VA 2YA
    1PUNCTUATION_DANDA 2DOUBLE_DANDA 2SPIRAL 2TRIPLE_DANDA 1VOWEL_SIGN_AA 3AI 3AU 3EI 3I 3II 3O 3OE
    3U 3UE 0CHARACTER_TABULATION 2SET 2WITH_JUSTIFICATION 1TIE 0CHART_WITH_DOWNWARDS_TREND
    2UPWARDS_TREND 4AND_YEN_SIGN 0CHECK_MARK 0CHECKER_BOARD 2FILL 0CHEERING_MEGAPHONE 0CHEESE_WEDGE
    0CHEQUERED_FLAG 0CHEROKEE_LETTER_A 2DA 2DE 2DI 2DLA 2DO 2DU 2DV 2E 2GA 2GE 2GI 2GO 2GU 2GV 2HA
    2HE 2HI 2HNA 2HO 2HU 2HV 2I 2KA 2LA 2LE 2LI 2LO 2LU 2LV 2MA 2ME 2MI 2MO 2MU 2MV 2NA 2NAH 2NE 2NI
    2NO 2NU 2NV 2O 2QUA 2QUE 2QUI 2QUO 2QUU 2QUV 2S 2SA 2SE 2SI 2SO 2SU 2SV 2TA 2TE 2TI 2TLA 2TLE
    2TLI 2TLO 2TLU 2TLV 2TSA 2TSE 2TSI 2TSO 2TSU 2TSV 2U 2V 2WA 2WE 2WI 2WO 2WU 2WV 2YA 2YE 2YI 2YO
    2YU 2YV 1SMALL_LETTER_A 3DA 3DE 3DI 3DLA 3DO 3DU 3DV 3E 3GA 3GE 3GI 3GO 3GU 3GV 3HA 3HE 3HI 3HNA
    3HO 3HU 3HV 3I 3KA 3LA 3LE 3LI 3LO 3LU 3LV 3MA 3ME 3MI 3MO 3MU 3MV 3NA 3NAH 3NE 3NI 3NO 3NU 3NV
    3O 3QUA 3QUE 3QUI 3QUO 3QUU 3QUV 3S 3SA 3SE 3SI 3SO 3SU 3SV 3TA 3TE 3TI 3TLA 3TLE 3TLI 3TLO 3TLU
    3TLV 3TSA 3TSE 3TSI 3TSO 3TSU 3TSV 3U 3V 3WA 3WE 3WI 3WO 3WU 3WV 3YA 3YE 3YI 3YO 3YU 3YV
    0CHERRIES 0CHERRY_BLOSSOM 0CHESTNUT 0CHI_RHO 0CHICKEN 0CHILD 0CHILDREN_CROSSING 0CHIPMUNK
    0CHIRON 0CHOCOLATE_BAR 0CHOPSTICKS 0CHORASMIAN_LETTER_ALEPH 2AYIN 2BETH 2CURLED_WAW 2DALETH
    2GIMEL 2HE 2HETH 2KAPH 2LAMEDH 2MEM 2NUN 2PE 2RESH 2SAMEKH 2SHIN 2SMALL_ALEPH 2TAW 2WAW 2YODH
    2ZAYIN 1NUMBER_FOUR 2ONE 3HUNDRED 2TEN 2THREE 2TWENTY 2TWO 0CHRISTMAS_TREE 0CHURCH 0CINEMA
    0CIRCLE_DIVIDED_BY_HORIZONTAL_BAR_AND_TOP_HALF_DIVIDED_BY_VERTICAL_BAR
    1WITH_ALL_BUT_UPPER_LEFT_QUADRANT_BLACK 2HORIZONTAL_BAR 2LEFT_HALF_BLACK 2LOWER_HALF_BLACK
    2RIGHT_HALF_BLACK 2SMALL_CIRCLE_TO_THE_RIGHT 2SUPERIMPOSED_X
    2TWO_HORIZONTAL_STROKES_TO_THE_RIGHT 2UPPER_HALF_BLACK 3RIGHT_QUADRANT_BLACK 2VERTICAL_FILL
    0CIRCLED_ANTICLOCKWISE_ARROW 1ANTICLOCKWISE-ROTATED_DIVISION_SIGN 1ASTERISK_OPERATOR 1BOLD_X
    1BULLET 1C_WITH_OVERLAID_BACKSLASH 1CC 1CD 1CROSS_FORMEE 3WITH_FOUR_DOTS 4TWO_DOTS 2POMMEE
    1CROSSING_LANES 1DASH 1DIGIT_EIGHT 2FIVE 2FOUR 2NINE 2ONE 2SEVEN 2SIX 2THREE 2TWO 2ZERO
    1DIVISION_SIGN 2SLASH 1DOLLAR_SIGN_WITH_OVERLAID_BACKSLASH 1DOT_OPERATOR 1EQUALS 1GREATER-THAN
    1HANGUL_CHIEUCH 3A 2CIEUC 3A 2HIEUH 3A 2IEUNG 3A 3U 2KHIEUKH 3A 2KIYEOK 3A 2MIEUM 3A 2NIEUN 3A
    2PHIEUPH 3A 2PIEUP 3A 2RIEUL 3A 2SIOS 3A 2THIEUTH 3A 2TIKEUT 3A 1HEAVY_WHITE_RIGHTWARDS_ARROW
    1HORIZONTAL_BAR_WITH_NOTCH 1HUMAN_FIGURE 1IDEOGRAPH_ACCEPT 2ADVANTAGE 2ALLIANCE 2ATTENTION
    2CENTRE 2CONGRATULATION 2COPY 2CORRECT 2EARTH 2EIGHT 2ENTERPRISE 2EXCELLENT 2FEMALE 2FINANCIAL
    2FIRE 2FIVE 2FOUR 2HAVE 2HIGH 2ITEM 2KINDERGARTEN 2KOTO 2LABOR 2LEFT 2LOW 2MALE 2MEDICINE 2METAL
    2MOON 2NAME 2NIGHT 2NINE 2ONE 2PRINT 2QUESTION 2RELIGION 2RESOURCE 2REST 2RIGHT 2SCHOOL 2SECRET
    2SEVEN 2SIX 2SOCIETY 2SPECIAL 2STOCK 2STUDY 2SUITABLE 2SUN 2SUPERVISE 2TEN 2THREE 2TWO 2WATER
    2WOOD 1INFORMATION_SOURCE 1ITALIC_LATIN_CAPITAL_LETTER_C 5R 1KATAKANA_A 2E 2HA 2HE 2HI 2HO 2HU
    2I 2KA 2KE 2KI 2KO 2KU 2MA 2ME 2MI 2MO 2MU 2NA 2NE 2NI 2NO 2NU 2O 2RA 2RE 2RI 2RO 2RU 2SA 2SE
    2SI 2SO 2SU 2TA 2TE 2TI 2TO 2TU 2U 2WA 2WE 2WI 2WO 2YA 2YO 2YU 1KOREAN_CHARACTER_CHAMKO 3JUEUI
    1LATIN_CAPITAL_LETTER_A 4B 4C 4D 4E 4F 4G 4H 4I 4J 4K 4L 4M 4N 4O 4P 4Q 4R 4S 4T 4U 4V 4W 4X 4Y
    4Z 2SMALL_LETTER_A 4B 4C 4D 4E 4F 4G 4H 4I 4J 4K 4L 4M 4N 4O 4P 4Q 4R 4S 4T 4U 4V 4W 4X 4Y 4Z
    1LESS-THAN 1MINUS 1MULTIPLICATION_SIGN_WITH_CIRCUMFLEX_ACCENT 1NUMBER_EIGHTEEN
    2EIGHTY_ON_BLACK_SQUARE 2ELEVEN 2FIFTEEN 2FIFTY 3ON_BLACK_SQUARE 2FORTY 3EIGHT 3FIVE 3FOUR 3NINE
    3ON_BLACK_SQUARE 3ONE 3SEVEN 3SIX 3THREE 3TWO 2FOURTEEN 2NINETEEN 2SEVENTEEN
    2SEVENTY_ON_BLACK_SQUARE 2SIXTEEN 2SIXTY_ON_BLACK_SQUARE 2TEN 3ON_BLACK_SQUARE 2THIRTEEN 2THIRTY
    3EIGHT 3FIVE 3FOUR 3NINE 3ON_BLACK_SQUARE 3ONE 3SEVEN 3SIX 3THREE 3TWO 2TWELVE 2TWENTY 3EIGHT
    3FIVE 3FOUR 3NINE 3ON_BLACK_SQUARE 3ONE 3SEVEN 3SIX 3THREE 3TWO 1OPEN_CENTRE_EIGHT_POINTED_STAR
    1PARALLEL 1PERPENDICULAR 1PLUS 1POSTAL_MARK 1REVERSE_SOLIDUS 1RING_OPERATOR 1SQUARE 1TIMES
    1TRIANGLE 2DOWN 1VERTICAL_BAR 1WHITE_BULLET 2STAR 1WZ 1X 1ZERO_WITH_SLASH 0CIRCULATION_FUNCTION
    0CIRCUMFLEX_ACCENT 0CIRCUS_TENT 0CITYSCAPE 1AT_DUSK 0CJK_COMPATIBILITY_IDEOGRAPH-2F800
    2IDEOGRAPH-2F801 2IDEOGRAPH-2F802 2IDEOGRAPH-2F803 2IDEOGRAPH-2F804 2IDEOGRAPH-2F805
    2IDEOGRAPH-2F806 2IDEOGRAPH-2F807 2IDEOGRAPH-2F808 2IDEOGRAPH-2F809 2IDEOGRAPH-2F80A
    2IDEOGRAPH-2F80B 2IDEOGRAPH-2F80C 2IDEOGRAPH-2F80D 2IDEOGRAPH-2F80E 2IDEOGRAPH-2F80F
    2IDEOGRAPH-2F810 2IDEOGRAPH-2F811 2IDEOGRAPH-2F812 2IDEOGRAPH-2F813 2IDEOGRAPH-2F814
    2IDEOGRAPH-2F815 2IDEOGRAPH-2F816 2IDEOGRAPH-2F817 2IDEOGRAPH-2F818 2IDEOGRAPH-2F819
    2IDEOGRAPH-2F81A 2IDEOGRAPH-2F81B 2IDEOGRAPH-2F81C 2IDEOGRAPH-2F81D 2IDEOGRAPH-2F81E
    2IDEOGRAPH-2F81F 2IDEOGRAPH-2F820 2IDEOGRAPH-2F821 2IDEOGRAPH-2F822 2IDEOGRAPH-2F823
    2IDEOGRAPH-2F824 2IDEOGRAPH-2F825 2IDEOGRAPH-2F826 2IDEOGRAPH-2F827 2IDEOGRAPH-2F828
    2IDEOGRAPH-2F829 2IDEOGRAPH-2F82A 2IDEOGRAPH-2F82B 2IDEOGRAPH-2F82C 2IDEOGRAPH-2F82D
    2IDEOGRAPH-2F82E 2IDEOGRAPH-2F82F 2IDEOGRAPH-2F830 2IDEOGRAPH-2F831 2IDEOGRAPH-2F832
    2IDEOGRAPH-2F833 2IDEOGRAPH-2F834 2IDEOGRAPH-2F835 2IDEOGRAPH-2F836 2IDEOGRAPH-2F837
    2IDEOGRAPH-2F838 2IDEOGRAPH-2F839 2IDEOGRAPH-2F83A 2IDEOGRAPH-2F83B 2IDEOGRAPH-2F83C
    2IDEOGRAPH-2F83D 2IDEOGRAPH-2F83E 2IDEOGRAPH-2F83F 2IDEOGRAPH-2F840 2IDEOGRAPH-2F841
    2IDEOGRAPH-2F842 2IDEOGRAPH-2F843 2IDEOGRAPH-2F844 2IDEOGRAPH-2F845 2IDEOGRAPH-2F846
    2IDEOGRAPH-2F847 2IDEOGRAPH-2F848 2IDEOGRAPH-2F849 2IDEOGRAPH-2F84A 2IDEOGRAPH-2F84B
    2IDEOGRAPH-2F84C 2IDEOGRAPH-2F84D 2IDEOGRAPH-2F84E 2IDEOGRAPH-2F84F 2IDEOGRAPH-2F850
    2IDEOGRAPH-2F851 2IDEOGRAPH-2F852 2IDEOGRAPH-2F853 2IDEOGRAPH-2F854 2IDEOGRAPH-2F855
    2IDEOGRAPH-2F856 2IDEOGRAPH-2F857 2IDEOGRAPH-2F858 2IDEOGRAPH-2F859 2IDEOGRAPH-2F85A
    2IDEOGRAPH-2F85B 2IDEOGRAPH-2F85C 2IDEOGRAPH-2F85D 2IDEOGRAPH-2F85E 2IDEOGRAPH-2F85F
    2IDEOGRAPH-2F860 2IDEOGRAPH-2F861 2IDEOGRAPH-2F862 2IDEOGRAPH-2F863 2IDEOGRAPH-2F864
    2IDEOGRAPH-2F865 2IDEOGRAPH-2F866 2IDEOGRAPH-2F867 2IDEOGRAPH-2F868 2IDEOGRAPH-2F869
    2IDEOGRAPH-2F86A 2IDEOGRAPH-2F86B 2IDEOGRAPH-2F86C 2IDEOGRAPH-2F86D 2IDEOGRAPH-2F86E
    2IDEOGRAPH-2F86F 2IDEOGRAPH-2F870 2IDEOGRAPH-2F871 2IDEOGRAPH-2F872 2IDEOGRAPH-2F873
    2IDEOGRAPH-2F874 2IDEOGRAPH-2F875 2IDEOGRAPH-2F876 2IDEOGRAPH-2F877 2IDEOGRAPH-2F878
    2IDEOGRAPH-2F879 2IDEOGRAPH-2F87A 2IDEOGRAPH-2F87B 2IDEOGRAPH-2F87C 2IDEOGRAPH-2F87D
    2IDEOGRAPH-2F87E 2IDEOGRAPH-2F87F 2IDEOGRAPH-2F880 2IDEOGRAPH-2F881 2IDEOGRAPH-2F882
    2IDEOGRAPH-2F883 2IDEOGRAPH-2F884 2IDEOGRAPH-2F885 2IDEOGRAPH-2F886 2IDEOGRAPH-2F887
    2IDEOGRAPH-2F888 2IDEOGRAPH-2F889 2IDEOGRAPH-2F88A 2IDEOGRAPH-2F88B 2IDEOGRAPH-2F88C
    2IDEOGRAPH-2F88D 2IDEOGRAPH-2F88E 2IDEOGRAPH-2F88F 2IDEOGRAPH-2F890 2IDEOGRAPH-2F891
    2IDEOGRAPH-2F892 2IDEOGRAPH-2F893 2IDEOGRAPH-2F894 2IDEOGRAPH-2F895 2IDEOGRAPH-2F896
    2IDEOGRAPH-2F897 2IDEOGRAPH-2F898 2IDEOGRAPH-2F899 2IDEOGRAPH-2F89A 2IDEOGRAPH-2F89B
    2IDEOGRAPH-2F89C 2IDEOGRAPH-2F89D 2IDEOGRAPH-2F89E 2IDEOGRAPH-2F89F 2IDEOGRAPH-2F8A0
    2IDEOGRAPH-2F8A1 2IDEOGRAPH-2F8A2 2IDEOGRAPH-2F8A3 2IDEOGRAPH-2F8A4 2IDEOGRAPH-2F8A5
    2IDEOGRAPH-2F8A6 2IDEOGRAPH-2F8A7 2IDEOGRAPH-2F8A8 2IDEOGRAPH-2F8A9 2IDEOGRAPH-2F8AA
    2IDEOGRAPH-2F8AB 2IDEOGRAPH-2F8AC 2IDEOGRAPH-2F8AD 2IDEOGRAPH-2F8AE 2IDEOGRAPH-2F8AF
    2IDEOGRAPH-2F8B0 2IDEOGRAPH-2F8B1 2IDEOGRAPH-2F8B2 2IDEOGRAPH-2F8B3 2IDEOGRAPH-2F8B4
    2IDEOGRAPH-2F8B5 2IDEOGRAPH-2F8B6 2IDEOGRAPH-2F8B7 2IDEOGRAPH-2F8B8 2IDEOGRAPH-2F8B9
    2IDEOGRAPH-2F8BA 2IDEOGRAPH-2F8BB 2IDEOGRAPH-2F8BC 2IDEOGRAPH-2F8BD 2IDEOGRAPH-2F8BE
    2IDEOGRAPH-2F8BF 2IDEOGRAPH-2F8C0 2IDEOGRAPH-2F8C1 2IDEOGRAPH-2F8C2 2IDEOGRAPH-2F8C3
    2IDEOGRAPH-2F8C4 2IDEOGRAPH-2F8C5 2IDEOGRAPH-2F8C6 2IDEOGRAPH-2F8C7 2IDEOGRAPH-2F8C8
    2IDEOGRAPH-2F8C9 2IDEOGRAPH-2F8CA 2IDEOGRAPH-2F8CB 2IDEOGRAPH-2F8CC 2IDEOGRAPH-2F8CD
    2IDEOGRAPH-2F8CE 2IDEOGRAPH-2F8CF 2IDEOGRAPH-2F8D0 2IDEOGRAPH-2F8D1 2IDEOGRAPH-2F8D2
    2IDEOGRAPH-2F8D3 2IDEOGRAPH-2F8D4 2IDEOGRAPH-2F8D5 2IDEOGRAPH-2F8D6 2IDEOGRAPH-2F8D7
    2IDEOGRAPH-2F8D8 2IDEOGRAPH-2F8D9 2IDEOGRAPH-2F8DA 2IDEOGRAPH-2F8DB 2IDEOGRAPH-2F8DC
    2IDEOGRAPH-2F8DD 2IDEOGRAPH-2F8DE 2IDEOGRAPH-2F8DF 2IDEOGRAPH-2F8E0 2IDEOGRAPH-2F8E1
    2IDEOGRAPH-2F8E2 2IDEOGRAPH-2F8E3 2IDEOGRAPH-2F8E4 2IDEOGRAPH-2F8E5 2IDEOGRAPH-2F8E6
    2IDEOGRAPH-2F8E7 2IDEOGRAPH-2F8E8 2IDEOGRAPH-2F8E9 2IDEOGRAPH-2F8EA 2IDEOGRAPH-2F8EB
    2IDEOGRAPH-2F8EC 2IDEOGRAPH-2F8ED 2IDEOGRAPH-2F8EE 2IDEOGRAPH-2F8EF 2IDEOGRAPH-2F8F0
    2IDEOGRAPH-2F8F1 2IDEOGRAPH-2F8F2 2IDEOGRAPH-2F8F3 2IDEOGRAPH-2F8F4 2IDEOGRAPH-2F8F5
    2IDEOGRAPH-2F8F6 2IDEOGRAPH-2F8F7 2IDEOGRAPH-2F8F8 2IDEOGRAPH-2F8F9 2IDEOGRAPH-2F8FA
    2IDEOGRAPH-2F8FB 2IDEOGRAPH-2F8FC 2IDEOGRAPH-2F8FD 2IDEOGRAPH-2F8FE 2IDEOGRAPH-2F8FF
    2IDEOGRAPH-2F900 2IDEOGRAPH-2F901 2IDEOGRAPH-2F902 2IDEOGRAPH-2F903 2IDEOGRAPH-2F904
    2IDEOGRAPH-2F905 2IDEOGRAPH-2F906 2IDEOGRAPH-2F907 2IDEOGRAPH-2F908 2IDEOGRAPH-2F909
    2IDEOGRAPH-2F90A 2IDEOGRAPH-2F90B 2IDEOGRAPH-2F90C 2IDEOGRAPH-2F90D 2IDEOGRAPH-2F90E
    2IDEOGRAPH-2F90F 2IDEOGRAPH-2F910 2IDEOGRAPH-2F911 2IDEOGRAPH-2F912 2IDEOGRAPH-2F913
    2IDEOGRAPH-2F914 2IDEOGRAPH-2F915 2IDEOGRAPH-2F916 2IDEOGRAPH-2F917 2IDEOGRAPH-2F918
    2IDEOGRAPH-2F919 2IDEOGRAPH-2F91A 2IDEOGRAPH-2F91B 2IDEOGRAPH-2F91C 2IDEOGRAPH-2F91D
    2IDEOGRAPH-2F91E 2IDEOGRAPH-2F91F 2IDEOGRAPH-2F920 2IDEOGRAPH-2F921 2IDEOGRAPH-2F922
    2IDEOGRAPH-2F923 2IDEOGRAPH-2F924 2IDEOGRAPH-2F925 2IDEOGRAPH-2F926 2IDEOGRAPH-2F927
    2IDEOGRAPH-2F928 2IDEOGRAPH-2F929 2IDEOGRAPH-2F92A 2IDEOGRAPH-2F92B 2IDEOGRAPH-2F92C
    2IDEOGRAPH-2F92D 2IDEOGRAPH-2F92E 2IDEOGRAPH-2F92F 2IDEOGRAPH-2F930 2IDEOGRAPH-2F931
    2IDEOGRAPH-2F932 2IDEOGRAPH-2F933 2IDEOGRAPH-2F934 2IDEOGRAPH-2F935 2IDEOGRAPH-2F936
    2IDEOGRAPH-2F937 2IDEOGRAPH-2F938 2IDEOGRAPH-2F939 2IDEOGRAPH-2F93A 2IDEOGRAPH-2F93B
    2IDEOGRAPH-2F93C 2IDEOGRAPH-2F93D 2IDEOGRAPH-2F93E 2IDEOGRAPH-2F93F 2IDEOGRAPH-2F940
    2IDEOGRAPH-2F941 2IDEOGRAPH-2F942 2IDEOGRAPH-2F943 2IDEOGRAPH-2F944 2IDEOGRAPH-2F945
    2IDEOGRAPH-2F946 2IDEOGRAPH-2F947 2IDEOGRAPH-2F948 2IDEOGRAPH-2F949 2IDEOGRAPH-2F94A
    2IDEOGRAPH-2F94B 2IDEOGRAPH-2F94C 2IDEOGRAPH-2F94D 2IDEOGRAPH-2F94E 2IDEOGRAPH-2F94F
    2IDEOGRAPH-2F950 2IDEOGRAPH-2F951 2IDEOGRAPH-2F952 2IDEOGRAPH-2F953 2IDEOGRAPH-2F954
    2IDEOGRAPH-2F955 2IDEOGRAPH-2F956 2IDEOGRAPH-2F957 2IDEOGRAPH-2F958 2IDEOGRAPH-2F959
    2IDEOGRAPH-2F95A 2IDEOGRAPH-2F95B 2IDEOGRAPH-2F95C 2IDEOGRAPH-2F95D 2IDEOGRAPH-2F95E
    2IDEOGRAPH-2F95F 2IDEOGRAPH-2F960 2IDEOGRAPH-2F961 2IDEOGRAPH-2F962 2IDEOGRAPH-2F963
    2IDEOGRAPH-2F964 2IDEOGRAPH-2F965 2IDEOGRAPH-2F966 2IDEOGRAPH-2F967 2IDEOGRAPH-2F968
    2IDEOGRAPH-2F969 2IDEOGRAPH-2F96A 2IDEOGRAPH-2F96B 2IDEOGRAPH-2F96C 2IDEOGRAPH-2F96D
    2IDEOGRAPH-2F96E 2IDEOGRAPH-2F96F 2IDEOGRAPH-2F970 2IDEOGRAPH-2F971 2IDEOGRAPH-2F972
    2IDEOGRAPH-2F973 2IDEOGRAPH-2F974 2IDEOGRAPH-2F975 2IDEOGRAPH-2F976 2IDEOGRAPH-2F977
    2IDEOGRAPH-2F978 2IDEOGRAPH-2F979 2IDEOGRAPH-2F97A 2IDEOGRAPH-2F97B 2IDEOGRAPH-2F97C
    2IDEOGRAPH-2F97D 2IDEOGRAPH-2F97E 2IDEOGRAPH-2F97F 2IDEOGRAPH-2F980 2IDEOGRAPH-2F981
    2IDEOGRAPH-2F982 2IDEOGRAPH-2F983 2IDEOGRAPH-2F984 2IDEOGRAPH-2F985 2IDEOGRAPH-2F986
    2IDEOGRAPH-2F987 2IDEOGRAPH-2F988 2IDEOGRAPH-2F989 2IDEOGRAPH-2F98A 2IDEOGRAPH-2F98B
    2IDEOGRAPH-2F98C 2IDEOGRAPH-2F98D 2IDEOGRAPH-2F98E 2IDEOGRAPH-2F98F 2IDEOGRAPH-2F990
    2IDEOGRAPH-2F991 2IDEOGRAPH-2F992 2IDEOGRAPH-2F993 2IDEOGRAPH-2F994 2IDEOGRAPH-2F995
    2IDEOGRAPH-2F996 2IDEOGRAPH-2F997 2IDEOGRAPH-2F998 2IDEOGRAPH-2F999 2IDEOGRAPH-2F99A
    2IDEOGRAPH-2F99B 2IDEOGRAPH-2F99C 2IDEOGRAPH-2F99D 2IDEOGRAPH-2F99E 2IDEOGRAPH-2F99F
    2IDEOGRAPH-2F9A0 2IDEOGRAPH-2F9A1 2IDEOGRAPH-2F9A2 2IDEOGRAPH-2F9A3 2IDEOGRAPH-2F9A4
    2IDEOGRAPH-2F9A5 2IDEOGRAPH-2F9A6 2IDEOGRAPH-2F9A7 2IDEOGRAPH-2F9A8 2IDEOGRAPH-2F9A9
    2IDEOGRAPH-2F9AA 2IDEOGRAPH-2F9AB 2IDEOGRAPH-2F9AC 2IDEOGRAPH-2F9AD 2IDEOGRAPH-2F9AE
    2IDEOGRAPH-2F9AF 2IDEOGRAPH-2F9B0 2IDEOGRAPH-2F9B1 2IDEOGRAPH-2F9B2 2IDEOGRAPH-2F9B3
    2IDEOGRAPH-2F9B4 2IDEOGRAPH-2F9B5 2IDEOGRAPH-2F9B6 2IDEOGRAPH-2F9B7 2IDEOGRAPH-2F9B8
    2IDEOGRAPH-2F9B9 2IDEOGRAPH-2F9BA 2IDEOGRAPH-2F9BB 2IDEOGRAPH-2F9BC 2IDEOGRAPH-2F9BD
    2IDEOGRAPH-2F9BE 2IDEOGRAPH-2F9BF 2IDEOGRAPH-2F9C0 2IDEOGRAPH-2F9C1 2IDEOGRAPH-2F9C2
    2IDEOGRAPH-2F9C3 2IDEOGRAPH-2F9C4 2IDEOGRAPH-2F9C5 2IDEOGRAPH-2F9C6 2IDEOGRAPH-2F9C7
    2IDEOGRAPH-2F9C8 2IDEOGRAPH-2F9C9 2IDEOGRAPH-2F9CA 2IDEOGRAPH-2F9CB 2IDEOGRAPH-2F9CC
    2IDEOGRAPH-2F9CD 2IDEOGRAPH-2F9CE 2IDEOGRAPH-2F9CF 2IDEOGRAPH-2F9D0 2IDEOGRAPH-2F9D1
    2IDEOGRAPH-2F9D2 2IDEOGRAPH-2F9D3 2IDEOGRAPH-2F9D4 2IDEOGRAPH-2F9D5 2IDEOGRAPH-2F9D6
    2IDEOGRAPH-2F9D7 2IDEOGRAPH-2F9D8 2IDEOGRAPH-2F9D9 2IDEOGRAPH-2F9DA 2IDEOGRAPH-2F9DB
    2IDEOGRAPH-2F9DC 2IDEOGRAPH-2F9DD 2IDEOGRAPH-2F9DE 2IDEOGRAPH-2F9DF 2IDEOGRAPH-2F9E0
    2IDEOGRAPH-2F9E1 2IDEOGRAPH-2F9E2 2IDEOGRAPH-2F9E3 2IDEOGRAPH-2F9E4 2IDEOGRAPH-2F9E5
    2IDEOGRAPH-2F9E6 2IDEOGRAPH-2F9E7 2IDEOGRAPH-2F9E8 2IDEOGRAPH-2F9E9 2IDEOGRAPH-2F9EA
    2IDEOGRAPH-2F9EB 2IDEOGRAPH-2F9EC 2IDEOGRAPH-2F9ED 2IDEOGRAPH-2F9EE 2IDEOGRAPH-2F9EF
    2IDEOGRAPH-2F9F0 2IDEOGRAPH-2F9F1 2IDEOGRAPH-2F9F2 2IDEOGRAPH-2F9F3 2IDEOGRAPH-2F9F4
    2IDEOGRAPH-2F9F5 2IDEOGRAPH-2F9F6 2IDEOGRAPH-2F9F7 2IDEOGRAPH-2F9F8 2IDEOGRAPH-2F9F9
    2IDEOGRAPH-2F9FA 2IDEOGRAPH-2F9FB 2IDEOGRAPH-2F9FC 2IDEOGRAPH-2F9FD 2IDEOGRAPH-2F9FE
    2IDEOGRAPH-2F9FF 2IDEOGRAPH-2FA00 2IDEOGRAPH-2FA01 2IDEOGRAPH-2FA02 2IDEOGRAPH-2FA03
    2IDEOGRAPH-2FA04 2IDEOGRAPH-2FA05 2IDEOGRAPH-2FA06 2IDEOGRAPH-2FA07 2IDEOGRAPH-2FA08
    2IDEOGRAPH-2FA09 2IDEOGRAPH-2FA0A 2IDEOGRAPH-2FA0B 2IDEOGRAPH-2FA0C 2IDEOGRAPH-2FA0D
    2IDEOGRAPH-2FA0E 2IDEOGRAPH-2FA0F 2IDEOGRAPH-2FA10 2IDEOGRAPH-2FA11 2IDEOGRAPH-2FA12
    2IDEOGRAPH-2FA13 2IDEOGRAPH-2FA14 2IDEOGRAPH-2FA15 2IDEOGRAPH-2FA16 2IDEOGRAPH-2FA17
    2IDEOGRAPH-2FA18 2IDEOGRAPH-2FA19 2IDEOGRAPH-2FA1A 2IDEOGRAPH-2FA1B 2IDEOGRAPH-2FA1C
    2IDEOGRAPH-2FA1D 2IDEOGRAPH-F900 2IDEOGRAPH-F901 2IDEOGRAPH-F902 2IDEOGRAPH-F903 2IDEOGRAPH-F904
    2IDEOGRAPH-F905 2IDEOGRAPH-F906 2IDEOGRAPH-F907 2IDEOGRAPH-F908 2IDEOGRAPH-F909 2IDEOGRAPH-F90A
    2IDEOGRAPH-F90B 2IDEOGRAPH-F90C 2IDEOGRAPH-F90D 2IDEOGRAPH-F90E 2IDEOGRAPH-F90F 2IDEOGRAPH-F910
    2IDEOGRAPH-F911 2IDEOGRAPH-F912 2IDEOGRAPH-F913 2IDEOGRAPH-F914 2IDEOGRAPH-F915 2IDEOGRAPH-F916
    2IDEOGRAPH-F917 2IDEOGRAPH-F918 2IDEOGRAPH-F919 2IDEOGRAPH-F91A 2IDEOGRAPH-F91B 2IDEOGRAPH-F91C
    2IDEOGRAPH-F91D 2IDEOGRAPH-F91E 2IDEOGRAPH-F91F 2IDEOGRAPH-F920 2IDEOGRAPH-F921 2IDEOGRAPH-F922
    2IDEOGRAPH-F923 2IDEOGRAPH-F924 2IDEOGRAPH-F925 2IDEOGRAPH-F926 2IDEOGRAPH-F927 2IDEOGRAPH-F928
    2IDEOGRAPH-F929 2IDEOGRAPH-F92A 2IDEOGRAPH-F92B 2IDEOGRAPH-F92C 2IDEOGRAPH-F92D 2IDEOGRAPH-F92E
    2IDEOGRAPH-F92F 2IDEOGRAPH-F930 2IDEOGRAPH-F931 2IDEOGRAPH-F932 2IDEOGRAPH-F933 2IDEOGRAPH-F934
    2IDEOGRAPH-F935 2IDEOGRAPH-F936 2IDEOGRAPH-F937 2IDEOGRAPH-F938 2IDEOGRAPH-F939 2IDEOGRAPH-F93A
    2IDEOGRAPH-F93B 2IDEOGRAPH-F93C 2IDEOGRAPH-F93D 2IDEOGRAPH-F93E 2IDEOGRAPH-F93F 2IDEOGRAPH-F940
    2IDEOGRAPH-F941 2IDEOGRAPH-F942 2IDEOGRAPH-F943 2IDEOGRAPH-F944 2IDEOGRAPH-F945 2IDEOGRAPH-F946
    2IDEOGRAPH-F947 2IDEOGRAPH-F948 2IDEOGRAPH-F949 2IDEOGRAPH-F94A 2IDEOGRAPH-F94B 2IDEOGRAPH-F94C
    2IDEOGRAPH-F94D 2IDEOGRAPH-F94E 2IDEOGRAPH-F94F 2IDEOGRAPH-F950 2IDEOGRAPH-F951 2IDEOGRAPH-F952
    2IDEOGRAPH-F953 2IDEOGRAPH-F954 2IDEOGRAPH-F955 2IDEOGRAPH-F956 2IDEOGRAPH-F957 2IDEOGRAPH-F958
    2IDEOGRAPH-F959 2IDEOGRAPH-F95A 2IDEOGRAPH-F95B 2IDEOGRAPH-F95C 2IDEOGRAPH-F95D 2IDEOGRAPH-F95E
    2IDEOGRAPH-F95F 2IDEOGRAPH-F960 2IDEOGRAPH-F961 2IDEOGRAPH-F962 2IDEOGRAPH-F963 2IDEOGRAPH-F964
    2IDEOGRAPH-F965 2IDEOGRAPH-F966 2IDEOGRAPH-F967 2IDEOGRAPH-F968 2IDEOGRAPH-F969 2IDEOGRAPH-F96A
    2IDEOGRAPH-F96B 2IDEOGRAPH-F96C 2IDEOGRAPH-F96D 2IDEOGRAPH-F96E 2IDEOGRAPH-F96F 2IDEOGRAPH-F970
    2IDEOGRAPH-F971 2IDEOGRAPH-F972 2IDEOGRAPH-F973 2IDEOGRAPH-F974 2IDEOGRAPH-F975 2IDEOGRAPH-F976
    2IDEOGRAPH-F977 2IDEOGRAPH-F978 2IDEOGRAPH-F979 2IDEOGRAPH-F97A 2IDEOGRAPH-F97B 2IDEOGRAPH-F97C
    2IDEOGRAPH-F97D 2IDEOGRAPH-F97E 2IDEOGRAPH-F97F 2IDEOGRAPH-F980 2IDEOGRAPH-F981 2IDEOGRAPH-F982
    2IDEOGRAPH-F983 2IDEOGRAPH-F984 2IDEOGRAPH-F985 2IDEOGRAPH-F986 2IDEOGRAPH-F987 2IDEOGRAPH-F988
    2IDEOGRAPH-F989 2IDEOGRAPH-F98A 2IDEOGRAPH-F98B 2IDEOGRAPH-F98C 2IDEOGRAPH-F98D 2IDEOGRAPH-F98E
    2IDEOGRAPH-F98F 2IDEOGRAPH-F990 2IDEOGRAPH-F991 2IDEOGRAPH-F992 2IDEOGRAPH-F993 2IDEOGRAPH-F994
    2IDEOGRAPH-F995 2IDEOGRAPH-F996 2IDEOGRAPH-F997 2IDEOGRAPH-F998 2IDEOGRAPH-F999 2IDEOGRAPH-F99A
    2IDEOGRAPH-F99B 2IDEOGRAPH-F99C 2IDEOGRAPH-F99D 2IDEOGRAPH-F99E 2IDEOGRAPH-F99F 2IDEOGRAPH-F9A0
    2IDEOGRAPH-F9A1 2IDEOGRAPH-F9A2 2IDEOGRAPH-F9A3 2IDEOGRAPH-F9A4 2IDEOGRAPH-F9A5 2IDEOGRAPH-F9A6
    2IDEOGRAPH-F9A7 2IDEOGRAPH-F9A8 2IDEOGRAPH-F9A9 2IDEOGRAPH-F9AA 2IDEOGRAPH-F9AB 2IDEOGRAPH-F9AC
    2IDEOGRAPH-F9AD 2IDEOGRAPH-F9AE 2IDEOGRAPH-F9AF 2IDEOGRAPH-F9B0 2IDEOGRAPH-F9B1 2IDEOGRAPH-F9B2
    2IDEOGRAPH-F9B3 2IDEOGRAPH-F9B4 2IDEOGRAPH-F9B5 2IDEOGRAPH-F9B6 2IDEOGRAPH-F9B7 2IDEOGRAPH-F9B8
    2IDEOGRAPH-F9B9 2IDEOGRAPH-F9BA 2IDEOGRAPH-F9BB 2IDEOGRAPH-F9BC 2IDEOGRAPH-F9BD 2IDEOGRAPH-F9BE
    2IDEOGRAPH-F9BF 2IDEOGRAPH-F9C0 2IDEOGRAPH-F9C1 2IDEOGRAPH-F9C2 2IDEOGRAPH-F9C3 2IDEOGRAPH-F9C4
    2IDEOGRAPH-F9C5 2IDEOGRAPH-F9C6 2IDEOGRAPH-F9C7 2IDEOGRAPH-F9C8 2IDEOGRAPH-F9C9 2IDEOGRAPH-F9CA
    2IDEOGRAPH-F9CB 2IDEOGRAPH-F9CC 2IDEOGRAPH-F9CD 2IDEOGRAPH-F9CE 2IDEOGRAPH-F9CF 2IDEOGRAPH-F9D0
    2IDEOGRAPH-F9D1 2IDEOGRAPH-F9D2 2IDEOGRAPH-F9D3 2IDEOGRAPH-F9D4 2IDEOGRAPH-F9D5 2IDEOGRAPH-F9D6
    2IDEOGRAPH-F9D7 2IDEOGRAPH-F9D8 2IDEOGRAPH-F9D9 2IDEOGRAPH-F9DA 2IDEOGRAPH-F9DB 2IDEOGRAPH-F9DC
    2IDEOGRAPH-F9DD 2IDEOGRAPH-F9DE 2IDEOGRAPH-F9DF 2IDEOGRAPH-F9E0 2IDEOGRAPH-F9E1 2IDEOGRAPH-F9E2
    2IDEOGRAPH-F9E3 2IDEOGRAPH-F9E4 2IDEOGRAPH-F9E5 2IDEOGRAPH-F9E6 2IDEOGRAPH-F9E7 2IDEOGRAPH-F9E8
    2IDEOGRAPH-F9E9 2IDEOGRAPH-F9EA 2IDEOGRAPH-F9EB 2IDEOGRAPH-F9EC 2IDEOGRAPH-F9ED 2IDEOGRAPH-F9EE
    2IDEOGRAPH-F9EF 2IDEOGRAPH-F9F0 2IDEOGRAPH-F9F1 2IDEOGRAPH-F9F2 2IDEOGRAPH-F9F3 2IDEOGRAPH-F9F4
    2IDEOGRAPH-F9F5 2IDEOGRAPH-F9F6 2IDEOGRAPH-F9F7 2IDEOGRAPH-F9F8 2IDEOGRAPH-F9F9 2IDEOGRAPH-F9FA
    2IDEOGRAPH-F9FB 2IDEOGRAPH-F9FC 2IDEOGRAPH-F9FD 2IDEOGRAPH-F9FE 2IDEOGRAPH-F9FF 2IDEOGRAPH-FA00
    2IDEOGRAPH-FA01 2IDEOGRAPH-FA02 2IDEOGRAPH-FA03 2IDEOGRAPH-FA04 2IDEOGRAPH-FA05 2IDEOGRAPH-FA06
    2IDEOGRAPH-FA07 2IDEOGRAPH-FA08 2IDEOGRAPH-FA09 2IDEOGRAPH-FA0A 2IDEOGRAPH-FA0B 2IDEOGRAPH-FA0C
    2IDEOGRAPH-FA0D 2IDEOGRAPH-FA0E 2IDEOGRAPH-FA0F 2IDEOGRAPH-FA10 2IDEOGRAPH-FA11 2IDEOGRAPH-FA12
    2IDEOGRAPH-FA13 2IDEOGRAPH-FA14 2IDEOGRAPH-FA15 2IDEOGRAPH-FA16 2IDEOGRAPH-FA17 2IDEOGRAPH-FA18
    2IDEOGRAPH-FA19 2IDEOGRAPH-FA1A 2IDEOGRAPH-FA1B 2IDEOGRAPH-FA1C 2IDEOGRAPH-FA1D 2IDEOGRAPH-FA1E
    2IDEOGRAPH-FA1F 2IDEOGRAPH-FA20 2IDEOGRAPH-FA21 2IDEOGRAPH-FA22 2IDEOGRAPH-FA23 2IDEOGRAPH-FA24
    2IDEOGRAPH-FA25 2IDEOGRAPH-FA26 2IDEOGRAPH-FA27 2IDEOGRAPH-FA28 2IDEOGRAPH-FA29 2IDEOGRAPH-FA2A
    2IDEOGRAPH-FA2B 2IDEOGRAPH-FA2C 2IDEOGRAPH-FA2D 2IDEOGRAPH-FA2E 2IDEOGRAPH-FA2F 2IDEOGRAPH-FA30
    2IDEOGRAPH-FA31 2IDEOGRAPH-FA32 2IDEOGRAPH-FA33 2IDEOGRAPH-FA34 2IDEOGRAPH-FA35 2IDEOGRAPH-FA36
    2IDEOGRAPH-FA37 2IDEOGRAPH-FA38 2IDEOGRAPH-FA39 2IDEOGRAPH-FA3A 2IDEOGRAPH-FA3B 2IDEOGRAPH-FA3C
    2IDEOGRAPH-FA3D 2IDEOGRAPH-FA3E 2IDEOGRAPH-FA3F 2IDEOGRAPH-FA40 2IDEOGRAPH-FA41 2IDEOGRAPH-FA42
    2IDEOGRAPH-FA43 2IDEOGRAPH-FA44 2IDEOGRAPH-FA45 2IDEOGRAPH-FA46 2IDEOGRAPH-FA47 2IDEOGRAPH-FA48
    2IDEOGRAPH-FA49 2IDEOGRAPH-FA4A 2IDEOGRAPH-FA4B 2IDEOGRAPH-FA4C 2IDEOGRAPH-FA4D 2IDEOGRAPH-FA4E
    2IDEOGRAPH-FA4F 2IDEOGRAPH-FA50 2IDEOGRAPH-FA51 2IDEOGRAPH-FA52 2IDEOGRAPH-FA53 2IDEOGRAPH-FA54
    2IDEOGRAPH-FA55 2IDEOGRAPH-FA56 2IDEOGRAPH-FA57 2IDEOGRAPH-FA58 2IDEOGRAPH-FA59 2IDEOGRAPH-FA5A
    2IDEOGRAPH-FA5B 2IDEOGRAPH-FA5C 2IDEOGRAPH-FA5D 2IDEOGRAPH-FA5E 2IDEOGRAPH-FA5F 2IDEOGRAPH-FA60
    2IDEOGRAPH-FA61 2IDEOGRAPH-FA62 2IDEOGRAPH-FA63 2IDEOGRAPH-FA64 2IDEOGRAPH-FA65 2IDEOGRAPH-FA66
    2IDEOGRAPH-FA67 2IDEOGRAPH-FA68 2IDEOGRAPH-FA69 2IDEOGRAPH-FA6A 2IDEOGRAPH-FA6B 2IDEOGRAPH-FA6C
    2IDEOGRAPH-FA6D 2IDEOGRAPH-FA70 2IDEOGRAPH-FA71 2IDEOGRAPH-FA72 2IDEOGRAPH-FA73 2IDEOGRAPH-FA74
    2IDEOGRAPH-FA75 2IDEOGRAPH-FA76 2IDEOGRAPH-FA77 2IDEOGRAPH-FA78 2IDEOGRAPH-FA79 2IDEOGRAPH-FA7A
    2IDEOGRAPH-FA7B 2IDEOGRAPH-FA7C 2IDEOGRAPH-FA7D 2IDEOGRAPH-FA7E 2IDEOGRAPH-FA7F 2IDEOGRAPH-FA80
    2IDEOGRAPH-FA81 2IDEOGRAPH-FA82 2IDEOGRAPH-FA83 2IDEOGRAPH-FA84 2IDEOGRAPH-FA85 2IDEOGRAPH-FA86
    2IDEOGRAPH-FA87 2IDEOGRAPH-FA88 2IDEOGRAPH-FA89 2IDEOGRAPH-FA8A 2IDEOGRAPH-FA8B 2IDEOGRAPH-FA8C
    2IDEOGRAPH-FA8D 2IDEOGRAPH-FA8E 2IDEOGRAPH-FA8F 2IDEOGRAPH-FA90 2IDEOGRAPH-FA91 2IDEOGRAPH-FA92
    2IDEOGRAPH-FA93 2IDEOGRAPH-FA94 2IDEOGRAPH-FA95 2IDEOGRAPH-FA96 2IDEOGRAPH-FA97 2IDEOGRAPH-FA98
    2IDEOGRAPH-FA99 2IDEOGRAPH-FA9A 2IDEOGRAPH-FA9B 2IDEOGRAPH-FA9C 2IDEOGRAPH-FA9D 2IDEOGRAPH-FA9E
    2IDEOGRAPH-FA9F 2IDEOGRAPH-FAA0 2IDEOGRAPH-FAA1 2IDEOGRAPH-FAA2 2IDEOGRAPH-FAA3 2IDEOGRAPH-FAA4
    2IDEOGRAPH-FAA5 2IDEOGRAPH-FAA6 2IDEOGRAPH-FAA7 2IDEOGRAPH-FAA8 2IDEOGRAPH-FAA9 2IDEOGRAPH-FAAA
    2IDEOGRAPH-FAAB 2IDEOGRAPH-FAAC 2IDEOGRAPH-FAAD 2IDEOGRAPH-FAAE 2IDEOGRAPH-FAAF 2IDEOGRAPH-FAB0
    2IDEOGRAPH-FAB1 2IDEOGRAPH-FAB2 2IDEOGRAPH-FAB3 2IDEOGRAPH-FAB4 2IDEOGRAPH-FAB5 2IDEOGRAPH-FAB6
    2IDEOGRAPH-FAB7 2IDEOGRAPH-FAB8 2IDEOGRAPH-FAB9 2IDEOGRAPH-FABA 2IDEOGRAPH-FABB 2IDEOGRAPH-FABC
    2IDEOGRAPH-FABD 2IDEOGRAPH-FABE 2IDEOGRAPH-FABF 2IDEOGRAPH-FAC0 2IDEOGRAPH-FAC1 2IDEOGRAPH-FAC2
    2IDEOGRAPH-FAC3 2IDEOGRAPH-FAC4 2IDEOGRAPH-FAC5 2IDEOGRAPH-FAC6 2IDEOGRAPH-FAC7 2IDEOGRAPH-FAC8
    2IDEOGRAPH-FAC9 2IDEOGRAPH-FACA 2IDEOGRAPH-FACB 2IDEOGRAPH-FACC 2IDEOGRAPH-FACD 2IDEOGRAPH-FACE
    2IDEOGRAPH-FACF 2IDEOGRAPH-FAD0 2IDEOGRAPH-FAD1 2IDEOGRAPH-FAD2 2IDEOGRAPH-FAD3 2IDEOGRAPH-FAD4
    2IDEOGRAPH-FAD5 2IDEOGRAPH-FAD6 2IDEOGRAPH-FAD7 2IDEOGRAPH-FAD8 2IDEOGRAPH-FAD9 1RADICAL_BAMBOO
    2BLUE 2BOLT_OF_CLOTH 2BONE 2BOX 2BRUSH_ONE 3TWO 2C-SIMPLIFIED_BIRD 3CART 3DRAGON 3EAT 3EVEN
    3FISH 3FLY 3FROG 3GATE 3GOLD 3HORSE 3LEAF 3LONG 3SALT 3SEE 3SHELL 3SILK 3SPEECH 3TANNED_LEATHER
    3TOOTH 3TURTLE 3WIND 2CHOKE 2CITY 2CIVILIAN 2CLIFF 2CLOTHES 2COW 2DEATH 2DIVINATION 2DOG
    2EAT_ONE 3THREE 3TWO 2EWE 2EYE 2FIRE 2FOOT 2GHOST 2GRASS_ONE 3THREE 3TWO 2HAND 2HEAD 2HEART_ONE
    3TWO 2HORN 2J-SIMPLIFIED_DRAGON 3EVEN 3TOOTH 3TURTLE 2JADE 2KNIFE_ONE 3TWO 2LAME_FOUR 3ONE
    3THREE 3TWO 2LONG_ONE 3TWO 2MEAT 2MESH 2MOON 2MORTAR 2MOTHER 2MOUND_ONE 3TWO 2NET_FOUR 3ONE
    3THREE 3TWO 2OLD 2PAW_ONE 3TWO 2PERSON 2RAIN 2RAM 2RAP 2REPEAT 2SEAL 2SECOND_ONE 3THREE 3TWO
    2SHEEP 2SILK 2SIMPLIFIED_HALF_TREE_TRUNK 3HORN 3WALK 3WHEAT 3YELLOW 2SMALL_ONE 3TWO 2SNAKE
    2SNOUT_ONE 3TWO 2SPIRIT_ONE 3TWO 2SUN 2TABLE 2THREAD 2TIGER 2TURTLE 2WALK_ONE 3TWO 2WATER_ONE
    3TWO 2WEST_ONE 3TWO 1STROKE_BXG 2D 2H 2HG 2HP 2HPWG 2HXWG 2HZ 2HZG 2HZT 2HZW 2HZWG 2HZZ 2HZZP
    2HZZZ 2HZZZG 2N 2P 2PD 2PG 2PZ 2Q 2S 2SG 2SP 2ST 2SW 2SWG 2SWZ 2SZ 2SZWG 2SZZ 2T 2TN 2WG 2XG
    0CLAMSHELL_MOBILE_PHONE 0CLAPPER_BOARD 0CLAPPING_HANDS_SIGN 0CLASSICAL_BUILDING
    0CLEAR_SCREEN_SYMBOL 0CLINKING_BEER_MUGS 1GLASSES 0CLIPBOARD 0CLOCK_FACE_EIGHT_OCLOCK
    2EIGHT-THIRTY 2ELEVEN_OCLOCK 2ELEVEN-THIRTY 2FIVE_OCLOCK 2FIVE-THIRTY 2FOUR_OCLOCK 2FOUR-THIRTY
    2NINE_OCLOCK 2NINE-THIRTY 2ONE_OCLOCK 2ONE-THIRTY 2SEVEN_OCLOCK 2SEVEN-THIRTY 2SIX_OCLOCK
    2SIX-THIRTY 2TEN_OCLOCK 2TEN-THIRTY 2THREE_OCLOCK 2THREE-THIRTY 2TWELVE_OCLOCK 2TWELVE-THIRTY
    2TWO_OCLOCK 2TWO-THIRTY 0CLOCKWISE_CLOSED_CIRCLE_ARROW 1CONTOUR_INTEGRAL
    1DOWNWARDS_AND_UPWARDS_OPEN_CIRCLE_ARROWS 1GAPPED_CIRCLE_ARROW 1INTEGRAL 1OPEN_CIRCLE_ARROW
    1RIGHT_AND_LEFT_SEMICIRCLE_ARROWS 1RIGHTWARDS_AND_LEFTWARDS_OPEN_CIRCLE_ARROWS
    7WITH_CIRCLED_ONE_OVERLAY 1TOP_SEMICIRCLE_ARROW 1TRIANGLE-HEADED_OPEN_CIRCLE_ARROW 0CLOSE_UP
    0CLOSED_BOOK 1INTERSECTION_WITH_SERIFS 1LOCK_WITH_KEY 1MAILBOX_WITH_LOWERED_FLAG 3RAISED_FLAG
    1SUBSET 2OR_EQUAL_TO 1SUPERSET 2OR_EQUAL_TO 1UMBRELLA 1UNION_WITH_SERIFS 4AND_SMASH_PRODUCT
    0CLOUD 1WITH_LIGHTNING 2RAIN 2SNOW 2TORNADO 0CLOWN_FACE 0COAT 0COCKROACH 0COCKTAIL_GLASS
    0COCONUT 0COFFIN 0COIN 0COLLISION_SYMBOL 0COLON 1EQUALS 1SIGN 0COMBINING_ACUTE_ACCENT 3BELOW
    2TONE_MARK 1ACUTE-GRAVE-ACUTE 1ACUTE-MACRON 1ALMOST_EQUAL_TO_ABOVE 4BELOW 1ANNUITY_SYMBOL
    1ANTICLOCKWISE_ARROW_ABOVE 2RING_OVERLAY 1ASTERISK_ABOVE 2BELOW 1BINDU_BELOW 1BREVE 2BELOW
    1BREVE-MACRON 1BRIDGE_ABOVE 2BELOW 1CANDRABINDU 1CARON 2BELOW 1CEDILLA 1CIRCUMFLEX_ACCENT 3BELOW
    1CLOCKWISE_ARROW_ABOVE 2RING_OVERLAY 1COMMA_ABOVE 3RIGHT 2BELOW 1CONJOINING_MACRON 3BELOW
    1CYRILLIC_DASIA_PNEUMATA 2HUNDRED_MILLIONS_SIGN 3THOUSANDS_SIGN 2KAVYKA 2LETTER_A 3BE 3BIG_YUS
    3CHE 3DE 3DJERV 3EF 3EL 3EM 3EN 3ER 3ES 3ES-TE 3FITA 3GHE 3HA 3HARD_SIGN 3I 3IE 3IOTIFIED_A
    4BIG_YUS 4E 3KA 3LITTLE_YUS 3MONOGRAPH_UK 3O 3OMEGA 3PE 3SHA 3SHCHA 3SOFT_SIGN 3TE 3TSE 3U
    3UKRAINIAN_IE 3VE 3YAT 3YERU 3YI 3YU 3ZE 3ZHE 2MILLIONS_SIGN 2PALATALIZATION 2PAYEROK 2POKRYTIE
    2PSILI_PNEUMATA 2TEN_MILLIONS_SIGN 2THOUSAND_MILLIONS_SIGN 2TITLO 3LEFT_HALF 3RIGHT_HALF 2VZMET
    1DELETION_MARK 1DEVANAGARI_DIGIT_EIGHT 3FIVE 3FOUR 3NINE 3ONE 3SEVEN 3SIX 3THREE 3TWO 3ZERO
    2LETTER_A 3KA 3NA 3PA 3RA 3U 3VI 2SIGN_AVAGRAHA 1DIAERESIS 2BELOW 1DIAERESIS-RING 1DOT_ABOVE
    3LEFT 3RIGHT 2BELOW 3LEFT 1DOTTED_ACUTE_ACCENT 2GRAVE_ACCENT 1DOUBLE_ACUTE_ACCENT 2BREVE 3BELOW
    2CIRCUMFLEX_ABOVE 2GRAVE_ACCENT 2INVERTED_BREVE 4BELOW 2LOW_LINE 2MACRON 3BELOW 2OPEN_MARK_BELOW
    2OVERLINE 2PARENTHESES_ABOVE 2PLUS_SIGN_ABOVE 4BELOW 2RIGHTWARDS_ARROW_BELOW 2RING_BELOW 2TILDE
    3LEFT_HALF 3RIGHT_HALF 2VERTICAL_LINE_ABOVE 4BELOW 3STROKE_OVERLAY 1DOUBLED_CIRCUMFLEX_ACCENT
    1DOWN_TACK_BELOW 1DOWNWARDS_ARROW 1ENCLOSING_CIRCLE 3BACKSLASH 2DIAMOND 2KEYCAP 2SCREEN 2SQUARE
    2UPWARD_POINTING_TRIANGLE 1EQUALS_SIGN_BELOW 1FERMATA 1FOUR_DOTS_ABOVE 1GLAGOLITIC_LETTER_AZU
    3BIG_YUS 3BUKY 3CHRIVI 3DJERVI 3DOBRO 3FITA 3FRITU 3GLAGOLI 3HERU 3I 3INITIAL_IZHE
    3IOTATED_BIG_YUS 4SMALL_YUS 3IZHE 3KAKO 3LJUDIJE 3MYSLITE 3NASHI 3ONU 3POKOJI 3RITSI 3SHA 3SHTA
    3SLOVO 3SMALL_YUS 3TSI 3TVRIDO 3UKU 3VEDE 3YATI 3YERI 3YERU 3YESTU 3YO 3YU 3ZEMLJA 3ZHIVETE
    1GRANTHA_DIGIT_FIVE 3FOUR 3ONE 3SIX 3THREE 3TWO 3ZERO 2LETTER_A 3KA 3NA 3PA 3VI 1GRAPHEME_JOINER
    1GRAVE_ACCENT 3BELOW 2TONE_MARK 1GRAVE-ACUTE-GRAVE 1GRAVE-MACRON 1GREEK_DIALYTIKA_TONOS 2KORONIS
    2MUSICAL_PENTASEME 3TETRASEME 3TRISEME 2PERISPOMENI 2YPOGEGRAMMENI 1HOMOTHETIC_ABOVE 1HOOK_ABOVE
    1HORN 1INFINITY 1INVERTED_BREVE 3BELOW 2BRIDGE_BELOW 2DOUBLE_ARCH_ABOVE 4BELOW 1IS_BELOW
    1KATAKANA-HIRAGANA_SEMI-VOICED_SOUND_MARK 2VOICED_SOUND_MARK 1KAVYKA_ABOVE_LEFT 3RIGHT
    1LATIN_LETTER_SMALL_CAPITAL_G 5L 5M 5N 5R 2SMALL_LETTER_A 5WITH_DIAERESIS 4AE 4ALPHA 4AO 4AV 4B
    4BETA 4C 5CEDILLA 4D 4E 4ESH 4ETH 4F 4FLATTENED_OPEN_A_ABOVE 4G 4H 4I 4INSULAR_D 5G 5R 5T 4K 4L
    5WITH_DOUBLE_MIDDLE_TILDE 4LONG_S 4M 4N 4O 5WITH_DIAERESIS 6LIGHT_CENTRALIZATION_STROKE 4P 4R
    5BELOW 5ROTUNDA 4S 4SCHWA 4T 4TURNED_W_BELOW 4U 5WITH_DIAERESIS 6LIGHT_CENTRALIZATION_STROKE 4V
    4W 5BELOW 4X 4Z 1LEFT_ANGLE_ABOVE 3BELOW 2ARROW_ABOVE 3BELOW 2ARROWHEAD_ABOVE 3BELOW
    2HALF_RING_ABOVE 4BELOW 2HARPOON_ABOVE 2PARENTHESIS_ABOVE_LEFT 3BELOW_LEFT 2RIGHT_ARROW_ABOVE
    4BELOW 2TACK_BELOW 1LEFTWARDS_ARROW_OVERLAY 2HARPOON_WITH_BARB_DOWNWARDS 1LIGATURE_LEFT_HALF
    4BELOW 2RIGHT_HALF 4BELOW 1LIGHT_CENTRALIZATION_STROKE_BELOW 1LONG_DOUBLE_SOLIDUS_OVERLAY
    2SOLIDUS_OVERLAY 2STROKE_OVERLAY 2VERTICAL_LINE_OVERLAY 1LOW_LINE 1MACRON 2BELOW 2LEFT_HALF
    4BELOW 2RIGHT_HALF 4BELOW 1MACRON-ACUTE 1MACRON-BREVE 1MACRON-GRAVE 1MINUS_SIGN_BELOW
    1NOT_TILDE_ABOVE 1NUMBER_SIGN_ABOVE 1OGONEK 2ABOVE 1OLD_PERMIC_LETTER_AN 4DOI 4NENOE 4SII 4ZATA
    1OPEN_MARK_BELOW 1OVERLINE 1PALATALIZED_HOOK_BELOW 1PARENTHESES_ABOVE 2BELOW 2OVERLAY
    1PLUS_SIGN_ABOVE 3BELOW 1RETROFLEX_HOOK_BELOW 1REVERSE_SOLIDUS_OVERLAY 1REVERSED_COMMA_ABOVE
    1RIGHT_ARROW_ABOVE 3BELOW 2ARROWHEAD_ABOVE 3AND_DOWN_ARROWHEAD_BELOW 4UP_ARROWHEAD_BELOW 3BELOW
    2HALF_RING_ABOVE 4BELOW 2HARPOON_ABOVE 2PARENTHESIS_ABOVE_RIGHT 3BELOW_RIGHT 2TACK_BELOW
    1RIGHTWARDS_HARPOON_WITH_BARB_DOWNWARDS 1RING_ABOVE 2BELOW 2OVERLAY 1SEAGULL_BELOW
    1SHORT_SOLIDUS_OVERLAY 2STROKE_OVERLAY 2VERTICAL_LINE_OVERLAY 1SNAKE_BELOW 1SQUARE_BELOW
    2BRACKETS_ABOVE 1STRONG_CENTRALIZATION_STROKE_BELOW 1SUSPENSION_MARK 1THREE_DOTS_ABOVE 1TILDE
    2BELOW 2LEFT_HALF_BELOW 2OVERLAY 2RIGHT_HALF_BELOW 1TRIPLE_ACUTE_ACCENT 2DOT 2UNDERDOT
    1TURNED_COMMA_ABOVE 1UP_TACK_ABOVE 3BELOW 1UPWARDS_ARROW_BELOW 1UR_ABOVE 1US_ABOVE
    1VERTICAL_LINE_ABOVE 3BELOW 2TILDE 1WIDE_BRIDGE_ABOVE 2INVERTED_BRIDGE_BELOW 1WIGGLY_LINE_BELOW
    1X_ABOVE 2BELOW 1X-X_BELOW 1ZIGZAG_ABOVE 2BELOW 0COMET 0COMMA 0COMMERCIAL_AT 1MINUS_SIGN
    0COMPASS 0COMPLEMENT 0COMPOSITION_SYMBOL 0COMPRESSION 0CONFETTI_BALL 0CONFOUNDED_FACE
    0CONFUSED_FACE 0CONGRUENT_WITH_DOT_ABOVE 0CONICAL_TAPER 0CONJUNCTION 0CONSTRUCTION_SIGN 1WORKER
    0CONTAINS_AS_MEMBER 2NORMAL_SUBGROUP 4OR_EQUAL_TO 1WITH_LONG_HORIZONTAL_STROKE 2OVERBAR
    2VERTICAL_BAR_AT_END_OF_HORIZONTAL_STROKE 0CONTINUOUS_UNDERLINE_SYMBOL 0CONTOUR_INTEGRAL
    0CONTROL_KNOBS 1SEQUENCE_INTRODUCER 0CONVENIENCE_STORE 0COOKED_RICE 0COOKIE 0COOKING
    0COPTIC_CAPITAL_LETTER_AKHMIMIC_KHEI 3ALFA 3BOHAIRIC_KHEI 3CROSSED_SHEI 3CRYPTOGRAMMIC_EIE
    4GANGIA 4NI 4SHEI 3DALDA 3DEI 3DIALECT-P_ALEF 4HORI 4KAPA 4NI 3EIE 3FEI 3FI 3GAMMA 3GANGIA 3HATE
    3HORI 3IAUDA 3KAPA 3KHEI 3KHI 3KSI 3L-SHAPED_HA 3LAULA 3MI 3NI 3O 3OLD_COPTIC_AIN 5DJA 5ESH
    5GANGIA 5HA 5HAT 5HEI 5HORI 5OOU 5SHEI 5SHIMA 4NUBIAN_NGI 5NYI 5SHIMA 5WAU 3OOU 3PI 3PSI 3RO
    3SAMPI 3SHEI 3SHIMA 3SIMA 3SOU 3TAU 3THETHE 3UA 3VIDA 3ZATA 1COMBINING_NI_ABOVE 2SPIRITUS_ASPER
    3LENIS 1EPACT_DIGIT_EIGHT 3FIVE 3FOUR 3NINE 3ONE 3SEVEN 3SIX 3THREE 3TWO 2NUMBER_EIGHT_HUNDRED
    3EIGHTY 3FIFTY 3FIVE_HUNDRED 3FORTY 3FOUR_HUNDRED 3NINE_HUNDRED 3NINETY 3ONE_HUNDRED
    3SEVEN_HUNDRED 3SEVENTY 3SIX_HUNDRED 3SIXTY 3TEN 3THIRTY 3THREE_HUNDRED 3TWENTY 3TWO_HUNDRED
    2THOUSANDS_MARK 1FRACTION_ONE_HALF 1FULL_STOP 1MORPHOLOGICAL_DIVIDER
    1OLD_NUBIAN_DIRECT_QUESTION_MARK 3FULL_STOP 3INDIRECT_QUESTION_MARK 3VERSE_DIVIDER
    1SMALL_LETTER_AKHMIMIC_KHEI 3ALFA 3BOHAIRIC_KHEI 3CROSSED_SHEI 3CRYPTOGRAMMIC_EIE 4GANGIA 4NI
    4SHEI 3DALDA 3DEI 3DIALECT-P_ALEF 4HORI 4KAPA 4NI 3EIE 3FEI 3FI 3GAMMA 3GANGIA 3HATE 3HORI
    3IAUDA 3KAPA 3KHEI 3KHI 3KSI 3L-SHAPED_HA 3LAULA 3MI 3NI 3O 3OLD_COPTIC_AIN 5DJA 5ESH 5GANGIA
    5HA 5HAT 5HEI 5HORI 5OOU 5SHEI 5SHIMA 4NUBIAN_NGI 5NYI 5SHIMA 5WAU 3OOU 3PI 3PSI 3RO 3SAMPI
    3SHEI 3SHIMA 3SIMA 3SOU 3TAU 3THETHE 3UA 3VIDA 3ZATA 1SYMBOL_KAI 2KHI_RO 2MI_RO 2PI_RO
    2SHIMA_SIMA 2STAUROS 2TAU_RO 0COPYLEFT_SYMBOL 0COPYRIGHT_SIGN 0CORAL 0CORNISH_VERSE_DIVIDER
    0CORRESPONDS_TO 0COUCH_AND_LAMP 0COUNTERBORE 0COUNTERSINK 0COUNTING_ROD_TENS_DIGIT_EIGHT 4FIVE
    4FOUR 4NINE 4ONE 4SEVEN 4SIX 4THREE 4TWO 2UNIT_DIGIT_EIGHT 4FIVE 4FOUR 4NINE 4ONE 4SEVEN 4SIX
    4THREE 4TWO 0COUPLE_WITH_HEART 0COW 1FACE 0CR 0CRAB 0CREDIT_CARD 0CRESCENT_MOON 0CRICKET
    1BAT_AND_BALL 0CROCODILE 0CROISSANT 0CROSS_MARK 1OF_JERUSALEM 2LORRAINE
    1PATTY_WITH_LEFT_CROSSBAR 3RIGHT_CROSSBAR 1POMMEE 2WITH_HALF-CIRCLE_BELOW 0CROSSED_FLAGS
    1NEGATIVE_SQUARED_LATIN_CAPITAL_LETTER_P 1SWORDS 0CROSSING_LANES 0CROWN 0CRUTCH 0CRUZEIRO_SIGN
    0CRYING_CAT_FACE 1FACE 0CRYSTAL_BALL 0CSI 0CUBE_ROOT 0CUCUMBER 0CUNEIFORM_NUMERIC_SIGN_EIGHT_ASH
    4DISH 4GESH2 4SHAR2 4U 5VARIANT_FORM 4VARIANT_FORM_USSU 6USSU3 3ELAMITE_FIFTY 4FORTY 4ONE_THIRD
    4TWO_THIRDS 3FIVE_ASH 5TENU 4BAN2 5VARIANT_FORM 4BURU 4DISH 4GESH2 4GESHU 4SHAR2 4SHARU
    4SIXTHS_DISH 4U 5VARIANT_FORM 3FOUR_ASH 5TENU 4BAN2 5VARIANT_FORM 4BURU 4DISH 4GESH2 4GESHU
    4SHAR2 4SHARU 4U 5VARIANT_FORM 4VARIANT_FORM_LIMMU 7A 7B 6LIMMU4 3NIGIDAESH 3NIGIDAMIN 3NINE_ASH
    4DISH 4GESH2 4SHAR2 4U 5VARIANT_FORM 4VARIANT_FORM_ILIMMU 7A 6ILIMMU3 6ILIMMU4
    3OLD_ASSYRIAN_ONE_QUARTER 6SIXTH 3ONE_BAN2 4BURU 4EIGHTH_ASH 4ESHE3 4GESH2 4GESHU 4HALF_GUR
    4QUARTER_ASH 5GUR 4SHARU 4THIRD_DISH 5VARIANT_FORM_A 3SEVEN_ASH 4DISH 4GESH2 4SHAR2 4U
    5VARIANT_FORM 4VARIANT_FORM_IMIN_A 7B 6IMIN3 3SHAR2_TIMES_GAL_PLUS_DISH 7MIN 3SIX_ASH 5TENU
    4DISH 4GESH2 4SHAR2 4U 5VARIANT_FORM 4VARIANT_FORM_ASH9 3THREE_ASH 5TENU 4BAN2 4BURU
    5VARIANT_FORM 4DISH 4GESH2 4GESHU 4SHAR2 5VARIANT_FORM 4SHARU 5VARIANT_FORM 4VARIANT_FORM_ESH16
    6ESH21 3TWO_ASH 5TENU 4BAN2 4BURU 4ESHE3 4GESH2 4GESHU 4SHAR2 4SHARU 4THIRDS_DISH
    5VARIANT_FORM_A 1PUNCTUATION_SIGN_DIAGONAL_COLON 4QUADCOLON 4TRICOLON 3OLD_ASSYRIAN_WORD_DIVIDER
    3VERTICAL_COLON 1SIGN_A 3TIMES_A 4BAD 4GAN2_TENU 4HA 4IGI 4LAGAR_GUNU 4MUSH 4SAG 2A2 2AB 3GUNU
    3TIMES_ASH2 4DUN3_GUNU 4GAL 4GAN2_TENU 4HA 4IGI_GUNU 4IMIN 4LAGAB 4NUN 5TENU 4SHESH 4SHU2
    4U_PLUS_U_PLUS_U 2AB2 3TIMES_A 4BALAG 4GAN2_TENU 4ME_PLUS_EN 4SHA3 4TAK4 2AD 3TIMES_ESH2 2AK
    3TIMES_ERIN2 4SHITA_PLUS_GISH 2AL 3TIMES_AL 4DIM2 4GISH 4HA 4KAD3 4KI 4SHE 4USH 2ALAN 2ALEPH
    2AMAR 3TIMES_KUG 4SHE 2AN 3OVER_AN 3PLUS_NAGA_OPPOSING_AN_PLUS_NAGA 5SQUARED 3THREE_TIMES 2ANSHE
    2APIN 2ARAD 3TIMES_KUR 2ARKAB 2ASAL2 2ASH 3KABA_TENU 3OVER_ASH_OVER_ASH
    7CROSSING_ASH_OVER_ASH_OVER_ASH 5TUG2_OVER_TUG2_TUG2_OVER_TUG2_PAP 3ZIDA_TENU 2ASH2 2ASHGAB 2BA
    2BAD 3TIMES_DISH_TENU 2BAG3 2BAHAR2 3TIMES_AB2 4NI 4ZA 2BAL 3OVER_BAL 2BALAG 2BAR 2BARA2 2BI
    3TIMES_A 4GAR 4IGI_GUNU 2BU 3CROSSING_BU 3OVER_BU_AB 5TIMES_NA2 5UN 2BULUG 3OVER_BULUG 2BUR
    2BUR2 2DA 3TIMES_TAK4 2DAG 3KISIM5_TIMES_A_PLUS_MASH 5AMAR 5BALAG 5BI 5GA 6PLUS_MASH 5GI 5GIR2
    5GUD 5HA 5IR 6PLUS_LU 5KAK 5LA 5LU 6PLUS_MASH2 5LUM 5NE 5PAP_PLUS_PAP 5SI 5TAK4 5U2_PLUS_GIR2
    7MASH 5USH 3TIMES_KUR 2DAG3 2DAM 2DAR 2DARA3 2DARA4 2DI 2DIB 2DIM 3TIMES_IGI 4SHE 4U_U_U 2DIM2
    3TIMES_UD 2DIN 3KASKAL_U_GUNU_DISH 2DISH 3PLUS_SHU 2DU 3GUNU 3OVER_DU 3SHESHIG 2DUB 3TIMES_ESH2
    4SHE 2DUB2 2DUG 3TIMES_ANSHE 4ASH 5AT_LEFT 4DIN 4DUN 4ERIN2 4GA 4GI 4GIR2_GUNU 4GISH 4HA 4HI
    4IGI_GUNU 4KASKAL 4KUR 4KUSHU2 5PLUS_KASKAL 4LAK-020 4LAM 5TIMES_KUR 4LUH_PLUS_GISH 4MASH 4MES
    4MI 4NI 4PI 4SHE 4SI_GUNU 2DUGUD 2DUH 2DUN 2DUN3 3GUNU 4GUNU 2DUN4 2DUR2 2E 3OVER_E_NUN_OVER_NUN
    3TIMES_PAP 2E2 3TIMES_A_PLUS_HA_PLUS_DA 4GAR 4KUR 4MI 4PAP 4SAL 4SHE 4U 2EDIN 2EGIR 2EL 2EN
    3CROSSING_EN 3OPPOSING_EN 3SQUARED 3TIMES_GAN2 5TENU 4ME 2EREN 2ERIN2 3X 2ESH2 3CROSSING_ESH2
    2EZEN 3SHESHIG_TIMES_ASH 5HI 5IGI_GUNU 5LA 5LAL 5ME 5MES 5SU 3TIMES_A 5PLUS_LAL 7TIMES_LAL 4AN
    4BAD 4DUN3_GUNU 6GUNU 4GUD 4HA 5GUNU 4IGI_GUNU 4KASKAL 5SQUARED 4KU3 4LA 4LAL_TIMES_LAL 4LI 4LU
    4SHE 4SU 4U2 4UD 2GA 3GUNU 2GA2 3OVER_GA2 3TIMES_A_PLUS_DA_PLUS_HA 6HA 6IGI 4AB2_TENU_PLUS_TAB
    4AN 5PLUS_KAK_PLUS_A 4ASH 4ASH2 5PLUS_GAL 4BAD 4BAHAR2 4BAR_PLUS_RA 4BUR 5PLUS_RA 4DA 4DI
    4DIM_GUNU 5TIMES_SHE 4DUB 4DUG_TIMES_IGI_GUNU 6KASKAL 4EL 5PLUS_LA 4EN 5TIMES_GAN2_TENU 4EREN
    4GA 4GAN2_TENU 4GAR 5PLUS_DI 6NE 4GI 4GI4 5PLUS_A 4GIR2_PLUS_SU 4HA_PLUS_A 6LU_PLUS_ESH2 4HAL
    5PLUS_LA 4HI_PLUS_LI 4HUB2 4IGI_GUNU 4ISH_PLUS_HU_PLUS_ASH 4KAK 4KASKAL 4KID 5PLUS_LAL
    4KU3_PLUS_AN 4KUSHU2_PLUS_KASKAL 4LA 4LAM 5TIMES_KUR 4LUH 4ME_PLUS_EN 4MI 4MUSH 4NE 5PLUS_E2 6GI
    4NUN 5OVER_NUN 4PA 4SAL 4SAR 4SHE 5PLUS_TUR 4SHID 4SHIM 4SUM 4TAK4 4U 4UD 5PLUS_DU 4ZIZ2 2GABA
    3CROSSING_GABA 3ROTATED_NINETY_DEGREES 2GAD 3OVER_GAD_GAR_OVER_GAR 2GAL
    3GAD_OVER_GAD_GAR_OVER_GAR 2GALAM 2GAM 2GAN 2GAN2 3CROSSING_GAN2 3OVER_GAN2 3TENU 2GAR 2GAR3
    2GASHAN 2GE22 2GESHTIN 3TIMES_KUR 4U 2GI 3CROSSING_GI 3TIMES_E 4U 2GI4 3CROSSING_GI4 3OVER_GI4
    2GIDIM 2GIG 2GIR2 3GUNU 2GIR3 3TIMES_A_PLUS_IGI 4GAN2_TENU 4IGI 4LU_PLUS_IGI 4PA 2GISAL 2GISH
    3CROSSING_GISH 3TENU 3TIMES_BAD 4GISH_CROSSING_GISH 4TAK4 2GU 3CROSSING_GU 2GU2 3GUNU
    3TIMES_IGI_GUNU 4KAK 5TIMES_IGI_GUNU 4NUN 4SAL_PLUS_TUG2 2GUD 3OVER_GUD_LUGAL
    3PLUS_GISH_TIMES_TAK4 3TIMES_A_PLUS_KUR 4KUR 2GUL 2GUM 3TIMES_SHE 2GUR 2GUR7 2GURUN 2GURUSH 2HA
    3GUNU 3TENU 4GUNU 2HAL 2HI 3TIMES_ASH 5OVER_HI_TIMES_ASH 4ASH2 4BAD 4DISH 4GAD 4KIN 4NUN 4SHE 4U
    2HU 2HUB2 3TIMES_AN 4HAL 4KASKAL 4LISH 4UD 2HUL2 2HUSH 2I 3A 2IB 2IDIM 3OVER_IDIM_BUR 5SQUARED
    2IG 2IGI 3DIB 3GUNU 3OVER_IGI_SHIR_OVER_SHIR_UD_OVER_UD 3RI 2IL 3TIMES_GAN2_TENU 2IL2 2IM
    3CROSSING_IM 3OPPOSING_IM 3SQUARED 3TIMES_TAK4 2IMIN 2IN 2IR 2ISH 2KA 3TIMES_A 4AD 5PLUS_KU3
    4ANSHE 4ASH2 4ASH3 4BAD 4BALAG 4BAR 4BI 4BU 4ERIN2 4ESH2 4GA 4GAL 4GAN2_TENU 4GAR
    5PLUS_SHA3_PLUS_A 4GI 4GIR2 4GISH 5CROSSING_GISH 5PLUS_SAR 4GU 4GUD 4GUR7 4HI_TIMES_ASH2 4IGI
    4IM 4KA 4KAK 4KI 4KID 4LI 4LU 4LUM 4ME 5PLUS_DU 6GI 6TE 4MI 5PLUS_NUNUZ 4NE 4NUN 4PA 4PI 4RU 4SA
    4SAR 4SHA 4SHE 4SHID 4SHU 4SHUL 4SIG 4SUHUR 4TAR 4TU 4U 5U_U 4U2 4UD 4UMUM_TIMES_PA 4UR 4UR2
    4USH 4ZI 2KA2 3CROSSING_KA2 2KAB 2KAD2 2KAD3 2KAD4 2KAD5 3OVER_KAD5 2KAK 3TIMES_IGI_GUNU 2KAL
    3CROSSING_KAL 3TIMES_BAD 2KAM2 2KAM4 2KAP_ELAMITE 2KASKAL 3LAGAB_TIMES_U_OVER_LAGAB_TIMES_U
    3OVER_KASKAL_LAGAB_TIMES_U_OVER_LAGAB_TIMES_U 2KESH2 2KI 3TIMES_BAD 4U 4UD 2KID 2KIN 2KISAL
    2KISH 2KISIM5 3OVER_KISIM5 2KU 3OVER_HI_TIMES_ASH2_KU_OVER_HI_TIMES_ASH2 2KU3 2KU4 3VARIANT_FORM
    2KU7 2KUL 3GUNU 2KUN 2KUR 3OPPOSING_KUR 2KUSHU2 2KWU318 2LA 2LAGAB 3SQUARED 3TIMES_A
    5PLUS_DA_PLUS_HA 6GAR 6LAL 4AL 4AN 4ASH_ZIDA_TENU 4BAD 4BI 4DAR 4EN 4GA 4GAR 4GI 4GUD 5PLUS_GUD
    4HA 4HAL 4HI_TIMES_NUN 4IGI_GUNU 4IM 5PLUS_HA 6LU 4KI 4KIN 4KU3 4KUL 5PLUS_HI_PLUS_A 4LAGAB
    4LISH 4LU 4LUL 4ME 5PLUS_EN 4MUSH 4NE 4SHE_PLUS_SUM 4SHITA_PLUS_GISH_PLUS_ERIN2 7TENU 4SHU2
    5PLUS_SHU2 4SUM 4TAG 4TAK4 4TE_PLUS_A_PLUS_SU_PLUS_NA 4U 5PLUS_A 6U_PLUS_U 4U2_PLUS_ASH 4UD 4USH
    4ZU_OVER_ZU 2LAGAR 3GUNU 4OVER_LAGAR_GUNU_SHE 3TIMES_SHE 5PLUS_SUM 2LAHSHU 2LAK-003 2LAK-021
    2LAK-025 2LAK-030 2LAK-050 2LAK-051 2LAK-062 2LAK-079_OVER_LAK-079_GUNU 2LAK-080
    2LAK-081_OVER_LAK-081 2LAK-092 2LAK-130 2LAK-142 2LAK-210 2LAK-219 2LAK-220 2LAK-225 2LAK-228
    2LAK-238 2LAK-265 2LAK-266 2LAK-343 2LAK-347 2LAK-348 2LAK-383 2LAK-384 2LAK-390 2LAK-441
    2LAK-449 3TIMES_GU 4IGI 4PAP_PLUS_LU3 6PAP_PLUS_LU3 4U2_PLUS_BA 2LAK-450 2LAK-457 2LAK-470
    2LAK-483 2LAK-490 2LAK-492 2LAK-493 2LAK-495 2LAK-550 2LAK-608 2LAK-617 3TIMES_ASH 4BAD
    4DUN3_GUNU_GUNU 4KU3 4LA 4TAR 4TE 4U2 4UD 4URUDA 2LAK-636 2LAK-648 3TIMES_DUB 4GA 4IGI 5GUNU 4NI
    4PAP_PLUS_PAP_PLUS_LU3 4SHESH_PLUS_KI 4UD 4URUDA 2LAK-724 2LAK-749 2LAL 3TIMES_LAL 2LAM
    3TIMES_KUR 5PLUS_RU 2LI 2LIL 2LIMMU2 2LISH 2LU 3TIMES_BAD 2LU2 3CROSSING_LU2 3GUNU_TIMES_ASH
    3OPPOSING_LU2 3SHESHIG 4TIMES_BAD 3SQUARED 3TENU 3TIMES_AL 4BAD 4DISH 4ESH2 5PLUS_LAL 5TENU
    4GAN2_TENU 4HAL 4HI_TIMES_BAD 4IM 4KAD2 4KAD3 5PLUS_ASH 4KI 4LA_PLUS_ASH 4LAGAB 4ME_PLUS_EN 4NE
    4NU 4PAP 5PLUS_PAP_PLUS_LU3 4SHU 4SI_PLUS_ASH 4SIK2_PLUS_BU 4TAK4 4TUG2 2LU3 2LUGAL
    3OPPOSING_LUGAL 3OVER_LUGAL 3SHESHIG 2LUH 2LUL 2LUM 3OVER_LUM 5GAR_OVER_GAR 2MA 3GUNU
    3TIMES_TAK4 2MA2 2MAH 2MAR 2MASH 2MASH2 2ME 2MES 2MESH 2MI 3PLUS_ZA7 2MIN 2MU 3OVER_MU 2MUG
    3GUNU 2MUNSUB 2MURGU2 2MUSH 3CROSSING_MUSH 3OVER_MUSH 5TIMES_A_PLUS_NA 6GA 6KAK 3TIMES_A 4KUR
    4ZA 2MUSH3 3GUNU 3TIMES_A 5PLUS_DI 4DI 4ZA 2NA 2NA2 2NA4 2NAGA 3INVERTED 3OPPOSING_NAGA
    3TIMES_SHU_TENU 2NAGAR 2NAM 3NUTILLU 2NAM2 2NE 3SHESHIG 3TIMES_A 4UD 2NI 3TIMES_E 2NI2 2NIM
    3TIMES_GAN2_TENU 4GAR_PLUS_GAN2_TENU 2NIN 2NIN9 2NINDA2 3TIMES_AN 4ASH 5PLUS_ASH 4BAL 4DIM_GUNU
    4GI 4GISH 4GUD 4GUL 4HI 4KESH2 4LAK-050 4MASH 4ME_PLUS_GAN2_TENU 4NE 4NUN 4PAP_PLUS_PAP 4SHE
    5PLUS_A_AN 6ASH 7PLUS_ASH 4U 5PLUS_U 4U2_PLUS_ASH 4URUDA 4USH 2NISAG 2NU 2NU11
    3OVER_NU11_BUR_OVER_BUR 3ROTATED_NINETY_DEGREES 3TENU 2NUN 3CROSSING_NUN 5LAGAR_OVER_LAGAR
    3LAGAR_TIMES_GAR 5MASH 5SAL 6OVER_NUN_LAGAR_TIMES_SAL 5USH 3OVER_NUN 3TENU 2NUNUZ
    3AB2_TIMES_ASHGAB 5BI 5DUG 5GUD 5IGI_GUNU 5KAD3 5LA 5NE 5SILA3 5U2 3KISIM5_TIMES_BI 6U 2PA 2PAD
    2PAN 2PAP 2PESH2 3ASTERISK 2PI 3CROSSING_PI 3TIMES_A 4AB 4BI 4BU 4E 4I 4IB 4U 4U2 2PIR2 2PIRIG
    3OPPOSING_PIRIG 3TIMES_KAL 4UD 4ZA 2RA 2RAB 2RI 2RU 2SA 2SAG 3GUNU 4TIMES_HA 3NUTILLU 3OVER_SAG
    3TIMES_A 4DU 4DUB 4EN 4HA 4IGI_GUNU 4KAK 4KUR 4LUM 4MI 4NUN 4SAL 4SHE_AT_LEFT 4SHID 4TAB 4TAK4
    4U2 4UB 4UM 4UR 4USH 2SAL 3LAGAB_TIMES_ASH2 2SANGA2 2SAR 2SHA 2SHA3 3TIMES_A 4BAD 4GISH 4NE
    4SHU2 4TUR 4U 5PLUS_A 2SHA6 3TENU 2SHAB6 2SHAR2 2SHE 3HU 3OVER_SHE 5GAD_OVER_GAD_GAR_OVER_GAR
    5TAB_OVER_TAB_GAR_OVER_GAR 3PLUS_HUB2 4NAM2 4SAR 2SHEG9 2SHEN 2SHESH 2SHESH2 2SHESHLAM 2SHID
    3TIMES_A 4IM 2SHIM 3TIMES_A 4BAL 4BULUG 4DIN 4GAR 4IGI 5GUNU 4KUSHU2 4LUL 4MUG 4SAL 2SHINIG
    2SHIR 3OVER_SHIR_BUR_OVER_BUR 3TENU 2SHITA 2SHU 3OVER_INVERTED_SHU 2SHU2 3PLUS_DUG_TIMES_NI
    4E2_TIMES_AN 2SHUBUR 2SI 3GUNU 3TIMES_TAK4 2SIG 2SIG4 3OVER_SIG4_SHU2 2SIK2 2SILA3 2SU 3OVER_SU
    2SUD 2SUD2 2SUHUR 2SUM 2SUMASH 2SUR 2SUR9 2TA 3ASTERISK 3GUNU 3TIMES_HI 4MI 2TAB
    3OVER_TAB_NI_OVER_NI_DISH_OVER_DISH 3SQUARED 2TAG 3TIMES_BI 4GUD 4SHE 4SHU 4TUG2 4UD 2TAK4
    3PLUS_SAG 2TAR 2TE 3GUNU 2TI 3TENU 2TI2 2TIL 2TIR 3OVER_TIR 5GAD_OVER_GAD_GAR_OVER_GAR
    3TIMES_TAK4 2TU 2TUG2 2TUK 2TUM 3TIMES_GAN2_TENU 4THREE_DISH 2TUR 3OVER_TUR_ZA_OVER_ZA 2U 3GUD
    3OVER_U_PA_OVER_PA_GAR_OVER_GAR 5SUR_OVER_SUR 5U_REVERSED_OVER_U_REVERSED 3U 4U 2U2 2UB 2UD
    3GUNU 3KUSHU2 3SHESHIG 4TIMES_BAD 3TIMES_BAD 4MI 4U_PLUS_U_PLUS_U 9GUNU 2UDUG 2UM 3TIMES_LAGAB
    4ME 5PLUS_DA 4SHA3 4U 2UMBIN 2UMUM 3TIMES_KASKAL 4PA 2UN 3GUNU 2UR 3CROSSING_UR 3SHESHIG 2UR2
    3INVERTED 3TIMES_A_PLUS_HA 6NA 4AL 4HA 4NUN 4U2 5PLUS_ASH 6BI 4UD 2UR4 2URI 2URI3 2URU 3TIMES_A
    4ASHGAB 4BAR 4DARA3 4DUN 4GA 4GAL 4GAN2_TENU 4GAR 4GU 4HA 4IGI 4IM 4ISH 4KI 4LAK-668 4LU3 4LUM
    4MIN 4PA 4SHE 4SIG4 4TU 4U_PLUS_GUD 4UD 4URUDA 2URUDA 3TIMES_U 2USH 3TIMES_A 4KU 4KUR 4TAK4
    2USH2 2USHUMX 2USHX 2UTUKI 2UZ3 3TIMES_KASKAL 2UZU 2ZA 3SQUARED_TIMES_KUR 3TENU 2ZA7 2ZAG 2ZAMX
    2ZE2 2ZI 3OVER_ZI 2ZI3 2ZIB 3KABA_TENU 2ZIG 2ZIZ2 2ZU 3OVER_ZU_PLUS_SAR 2ZU5 3TIMES_A
    4THREE_DISH_TENU 2ZUBUR 2ZUM 0CUP_ON_BLACK_SQUARE 1WITH_STRAW 0CUPCAKE 0CUPIDO 0CURLING_STONE
    0CURLY_BRACKET_EXTENSION 1LOGICAL_AND 2OR 1LOOP 0CURRENCY_EXCHANGE 1SIGN 0CURRY_AND_RICE
    0CURVED_STEM_PARAGRAPH_SIGN_ORNAMENT 0CUSTARD 0CUSTOMS 0CUT_OF_MEAT 0CYCLONE 0CYLINDRICITY
    0CYPRIOT_SYLLABLE_A 2E 2I 2JA 2JO 2KA 2KE 2KI 2KO 2KU 2LA 2LE 2LI 2LO 2LU 2MA 2ME 2MI 2MO 2MU
    2NA 2NE 2NI 2NO 2NU 2O 2PA 2PE 2PI 2PO 2PU 2RA 2RE 2RI 2RO 2RU 2SA 2SE 2SI 2SO 2SU 2TA 2TE 2TI
    2TO 2TU 2U 2WA 2WE 2WI 2WO 2XA 2XE 2ZA 2ZO 0CYPRO-MINOAN_SIGN_CM001 2CM002 2CM004 2CM005 2CM006
    2CM007 2CM008 2CM009 2CM010 2CM011 2CM012 2CM012B 2CM013 2CM015 2CM017 2CM019 2CM021 2CM023
    2CM024 2CM025 2CM026 2CM027 2CM028 2CM029 2CM030 2CM033 2CM034 2CM035 2CM036 2CM037 2CM038
    2CM039 2CM040 2CM041 2CM044 2CM046 2CM047 2CM049 2CM050 2CM051 2CM052 2CM053 2CM054 2CM055
    2CM056 2CM058 2CM059 2CM060 2CM061 2CM062 2CM063 2CM064 2CM066 2CM067 2CM068 2CM069 2CM070
    2CM071 2CM072 2CM073 2CM074 2CM075 2CM075B 2CM076 2CM078 2CM079 2CM080 2CM081 2CM082 2CM083
    2CM084 2CM085 2CM086 2CM087 2CM088 2CM089 2CM090 2CM091 2CM092 2CM094 2CM095 2CM096 2CM097
    2CM098 2CM099 2CM100 2CM101 2CM102 2CM103 2CM104 2CM105 2CM107 2CM108 2CM109 2CM110 2CM112
    2CM114 2CM301 2CM302 0CYRILLIC_CAPITAL_LETTER_A 4WITH_BREVE 5DIAERESIS 3ABKHASIAN_CHE
    5WITH_DESCENDER 4DZE 4HA 3ALEUT_KA 3BARRED_O 5WITH_DIAERESIS 3BASHKIR_KA 3BE 3BIG_YUS
    3BINOCULAR_O 3BLENDED_YUS 3BROAD_OMEGA 3BYELORUSSIAN-UKRAINIAN_I 3CCHE 3CHE 4WITH_DESCENDER
    5DIAERESIS 5VERTICAL_STROKE 3CLOSED_LITTLE_YUS 3CROSSED_O 3DCHE 3DE 3DJE 3DJERV
    3DOUBLE_MONOCULAR_O 4O 3DWE 3DZE 3DZELO 3DZHE 3DZWE 3DZZE 3DZZHE 3E 4WITH_DIAERESIS 3EF 3EL
    4WITH_DESCENDER 5HOOK 5MIDDLE_HOOK 5TAIL 3EM 4WITH_TAIL 3EN 4WITH_DESCENDER 5HOOK 5LEFT_HOOK
    5MIDDLE_HOOK 5TAIL 3ER 4WITH_TICK 3ES 4WITH_DESCENDER 3FITA 3GHE 4WITH_DESCENDER 5MIDDLE_HOOK
    5STROKE 6AND_HOOK 5UPTURN 3GJE 3HA 4WITH_DESCENDER 5HOOK 5STROKE 3HARD_SIGN 3HWE 3I
    4WITH_DIAERESIS 5GRAVE 5MACRON 3IE 4WITH_BREVE 5GRAVE 3IO 3IOTA 3IOTIFIED_A 4BIG_YUS
    4CLOSED_LITTLE_YUS 4E 4LITTLE_YUS 4YAT 3IZHITSA 4WITH_DOUBLE_GRAVE_ACCENT 3JE 3KA
    4WITH_DESCENDER 5HOOK 5STROKE 5VERTICAL_STROKE 3KHAKASSIAN_CHE 3KJE 3KOMI_DE 4DJE 4DZJE 4LJE
    4NJE 4SJE 4TJE 4ZJE 3KOPPA 3KSI 3LHA 3LITTLE_YUS 3LJE 3MONOCULAR_O 3MONOGRAPH_UK 3NEUTRAL_YER
    3NJE 3O 4WITH_DIAERESIS 3OMEGA 4WITH_TITLO 3OT 3PE 4WITH_DESCENDER 5MIDDLE_HOOK 3PSI 3QA
    3REVERSED_DZE 4TSE 4YU 4ZE 3RHA 3ROUND_OMEGA 3SCHWA 4WITH_DIAERESIS 3SEMISOFT_SIGN 3SHA 3SHCHA
    3SHHA 4WITH_DESCENDER 3SHORT_I 5WITH_TAIL 4U 3SHWE 3SOFT_DE 4EL 4EM 4SIGN 3STRAIGHT_U
    5WITH_STROKE 3TCHE 3TE 4WITH_DESCENDER 5MIDDLE_HOOK 3TSE 3TSHE 3TSSE 3TSWE 3TWE 3U
    4WITH_DIAERESIS 5DOUBLE_ACUTE 5MACRON 3UK 3UKRAINIAN_IE 3VE 3WE 3YA 3YAE 3YAT 3YERU
    4WITH_BACK_YER 5DIAERESIS 3YI 3YN 3YU 3ZE 4WITH_DESCENDER 5DIAERESIS 3ZEMLYA 3ZHE 4WITH_BREVE
    5DESCENDER 5DIAERESIS 3ZHWE 2LIGATURE_A_IE 3EN_GHE 3TE_TSE 1KAVYKA 1LETTER_MULTIOCULAR_O
    2PALOCHKA 2SMALL_CAPITAL_EL 1PAYEROK 1SMALL_LETTER_A 4WITH_BREVE 5DIAERESIS 3ABKHASIAN_CHE
    5WITH_DESCENDER 4DZE 4HA 3ALEUT_KA 3BARRED_O 5WITH_DIAERESIS 3BASHKIR_KA 3BE 3BIG_YUS
    3BINOCULAR_O 3BLENDED_YUS 3BROAD_OMEGA 3BYELORUSSIAN-UKRAINIAN_I 3CCHE 3CHE 4WITH_DESCENDER
    5DIAERESIS 5VERTICAL_STROKE 3CLOSED_LITTLE_YUS 3CROSSED_O 3DCHE 3DE 3DJE 3DJERV
    3DOUBLE_MONOCULAR_O 4O 3DWE 3DZE 3DZELO 3DZHE 3DZWE 3DZZE 3DZZHE 3E 4WITH_DIAERESIS 3EF 3EL
    4WITH_DESCENDER 5HOOK 5MIDDLE_HOOK 5TAIL 3EM 4WITH_TAIL 3EN 4WITH_DESCENDER 5HOOK 5LEFT_HOOK
    5MIDDLE_HOOK 5TAIL 3ER 4WITH_TICK 3ES 4WITH_DESCENDER 3FITA 3GHE 4WITH_DESCENDER 5MIDDLE_HOOK
    5STROKE 6AND_HOOK 5UPTURN 3GJE 3HA 4WITH_DESCENDER 5HOOK 5STROKE 3HARD_SIGN 3HWE 3I
    4WITH_DIAERESIS 5GRAVE 5MACRON 3IE 4WITH_BREVE 5GRAVE 3IO 3IOTA 3IOTIFIED_A 4BIG_YUS
    4CLOSED_LITTLE_YUS 4E 4LITTLE_YUS 4YAT 3IZHITSA 4WITH_DOUBLE_GRAVE_ACCENT 3JE 3KA
    4WITH_DESCENDER 5HOOK 5STROKE 5VERTICAL_STROKE 3KHAKASSIAN_CHE 3KJE 3KOMI_DE 4DJE 4DZJE 4LJE
    4NJE 4SJE 4TJE 4ZJE 3KOPPA 3KSI 3LHA 3LITTLE_YUS 3LJE 3LONG-LEGGED_DE 3MONOCULAR_O 3MONOGRAPH_UK
    3NARROW_O 3NEUTRAL_YER 3NJE 3O 4WITH_DIAERESIS 3OMEGA 4WITH_TITLO 3OT 3PALOCHKA 3PE
    4WITH_DESCENDER 5MIDDLE_HOOK 3PSI 3QA 3REVERSED_DZE 4TSE 4YU 4ZE 3RHA 3ROUND_OMEGA 3ROUNDED_VE
    3SCHWA 4WITH_DIAERESIS 3SEMISOFT_SIGN 3SHA 3SHCHA 3SHHA 4WITH_DESCENDER 3SHORT_I 5WITH_TAIL 4U
    3SHWE 3SOFT_DE 4EL 4EM 4SIGN 3STRAIGHT_U 5WITH_STROKE 3TALL_HARD_SIGN 4TE 4YAT 3TCHE 3TE
    4WITH_DESCENDER 5MIDDLE_HOOK 3THREE-LEGGED_TE 3TSE 3TSHE 3TSSE 3TSWE 3TWE 3U 4WITH_DIAERESIS
    5DOUBLE_ACUTE 5MACRON 3UK 3UKRAINIAN_IE 3UNBLENDED_UK 3VE 3WE 3WIDE_ES 3YA 3YAE 3YAT 3YERU
    4WITH_BACK_YER 5DIAERESIS 3YI 3YN 3YU 3ZE 4WITH_DESCENDER 5DIAERESIS 3ZEMLYA 3ZHE 4WITH_BREVE
    5DESCENDER 5DIAERESIS 3ZHWE 2LIGATURE_A_IE 3EN_GHE 3TE_TSE 1THOUSANDS_SIGN
    "),
    ('D', "
    0DAGGER 1KNIFE 1WITH_LEFT_GUARD 2RIGHT_GUARD 0DALET_SYMBOL 0DANCER 0DANGO 0DARK_SHADE
    1SUNGLASSES 0DASH_SYMBOL 1WITH_LEFT_UPTURN 0DASHED_LOW_LINE 1OVERLINE
    1TRIANGLE-HEADED_RIGHTWARDS_ARROW 0DATA_LINK_ESCAPE 0DC1 0DC2 0DC3 0DC4 0DCS 0DEAF_PERSON
    0DECIDUOUS_TREE 0DECIMAL_EXPONENT_SYMBOL 1SEPARATOR_KEY_SYMBOL 0DECREASE_FONT_SIZE_SYMBOL 0DEER
    0DEGREE_CELSIUS 1FAHRENHEIT 1SIGN 0DEL 0DELETE 0DELIVERY_TRUCK 0DELTA_EQUAL_TO
    0DENTISTRY_SYMBOL_LIGHT_DOWN_AND_HORIZONTAL 6WITH_CIRCLE 7TRIANGLE 7WAVE 3UP_AND_HORIZONTAL
    6WITH_CIRCLE 7TRIANGLE 7WAVE 3VERTICAL_AND_BOTTOM_LEFT 6RIGHT 5TOP_LEFT 6RIGHT 5WAVE
    4WITH_CIRCLE 5TRIANGLE 0DEPARTMENT_STORE 0DERELICT_HOUSE_BUILDING 0DESCENDING_NODE
    0DESERET_CAPITAL_LETTER_AY 3BEE 3CHEE 3DEE 3EF 3EL 3EM 3EN 3ENG 3ER 3ES 3ESH 3ETH 3EW 3GAY 3H
    3JEE 3KAY 3LONG_A 4AH 4E 4I 4O 4OO 3OI 3OW 3PEE 3SHORT_A 4AH 4E 4I 4O 4OO 3TEE 3THEE 3VEE 3WU
    3YEE 3ZEE 3ZHEE 1SMALL_LETTER_AY 3BEE 3CHEE 3DEE 3EF 3EL 3EM 3EN 3ENG 3ER 3ES 3ESH 3ETH 3EW 3GAY
    3H 3JEE 3KAY 3LONG_A 4AH 4E 4I 4O 4OO 3OI 3OW 3PEE 3SHORT_A 4AH 4E 4I 4O 4OO 3TEE 3THEE 3VEE 3WU
    3YEE 3ZEE 3ZHEE 0DESERT 1ISLAND 0DESKTOP_COMPUTER 1WINDOW 0DEVANAGARI_ABBREVIATION_SIGN
    1ACUTE_ACCENT 1CARET 1DANDA 1DIGIT_EIGHT 2FIVE 2FOUR 2NINE 2ONE 2SEVEN 2SIX 2THREE 2TWO 2ZERO
    1DOUBLE_DANDA 1GAP_FILLER 1GRAVE_ACCENT 1HEADSTROKE 1JAIN_OM 1LETTER_A 2AA 2AI 2AU 2AW 2AY 2BA
    2BBA 2BHA 2CA 2CANDRA_A 3E 3O 2CHA 2DA 2DDA 2DDDA 2DDDHA 2DDHA 2DHA 2E 2FA 2GA 2GGA 2GHA 2GHHA
    2GLOTTAL_STOP 2HA 2HEAVY_YA 2I 2II 2JA 2JHA 2JJA 2KA 2KHA 2KHHA 2LA 2LLA 2LLLA 2MA 2MARWARI_DDA
    2NA 2NGA 2NNA 2NNNA 2NYA 2O 2OE 2OOE 2PA 2PHA 2QA 2RA 2RHA 2RRA 2SA 2SHA 2SHORT_A 3E 3O 2SSA 2TA
    2THA 2TTA 2TTHA 2U 2UE 2UU 2UUE 2VA 2VOCALIC_L 3LL 3R 3RR 2YA 2YYA 2ZA 2ZHA 1OM 1SIGN_ANUSVARA
    2AVAGRAHA 2CANDRABINDU 3AVAGRAHA 3THREE 3TWO 3VIRAMA 2DOUBLE_CANDRABINDU_VIRAMA
    2HIGH_SPACING_DOT 2INVERTED_CANDRABINDU 2NUKTA 2PUSHPIKA 2SIDDHAM 2SPACING_CANDRABINDU 2VIRAMA
    2VISARGA 1STRESS_SIGN_ANUDATTA 3UDATTA 1VOWEL_SIGN_AA 3AI 3AU 3AW 3AY 3CANDRA_E 4LONG_E 4O 3E 3I
    3II 3O 3OE 3OOE 3PRISHTHAMATRA_E 3SHORT_E 4O 3U 3UE 3UU 3UUE 3VOCALIC_L 4LL 4R 4RR
    0DEVICE_CONTROL_FOUR 2ONE 2STRING 2THREE 2TWO 0DIAERESIS 0DIAMETER_SIGN 0DIAMOND_OPERATOR
    1SHAPE_WITH_A_DOT_INSIDE 1TARGET 1WITH_BOTTOM_HALF_BLACK 2LEFT_HALF_BLACK 2RIGHT_HALF_BLACK
    2TOP_HALF_BLACK 0DIE_FACE-1 1FACE-2 1FACE-3 1FACE-4 1FACE-5 1FACE-6 0DIESEL_LOCOMOTIVE
    0DIFFERENCE_BETWEEN 0DIGIT_EIGHT 2COMMA 2FULL_STOP 1FIVE 2COMMA 2FULL_STOP 1FOUR 2COMMA
    2FULL_STOP 1NINE 2COMMA 2FULL_STOP 1ONE 2COMMA 2FULL_STOP 1SEVEN 2COMMA 2FULL_STOP 1SIX 2COMMA
    2FULL_STOP 1THREE 2COMMA 2FULL_STOP 1TWO 2COMMA 2FULL_STOP 1ZERO 2COMMA 2FULL_STOP
    0DIGRAM_FOR_EARTH 2EARTHLY_HEAVEN 3HUMAN 2GREATER_YANG 3YIN 2HEAVENLY_EARTH 2HUMAN_EARTH
    2LESSER_YANG 3YIN 0DIMENSION_ORIGIN 0DINGBAT_CIRCLED_SANS-SERIF_DIGIT_EIGHT 4FIVE 4FOUR 4NINE
    4ONE 4SEVEN 4SIX 4THREE 4TWO 4ZERO 3NUMBER_TEN 1NEGATIVE_CIRCLED_DIGIT_EIGHT 4FIVE 4FOUR 4NINE
    4ONE 4SEVEN 4SIX 4THREE 4TWO 3NUMBER_TEN 3SANS-SERIF_DIGIT_EIGHT 5FIVE 5FOUR 5NINE 5ONE 5SEVEN
    5SIX 5THREE 5TWO 5ZERO 4NUMBER_TEN 0DIRECT_CURRENT_SYMBOL_FORM_TWO 1HIT 0DISABLED_CAR
    0DISAPPOINTED_BUT_RELIEVED_FACE 1FACE 0DISCONTINUOUS_UNDERLINE_SYMBOL 0DISGUISED_FACE
    0DITTO_MARK 0DIVES_AKURU_DIGIT_EIGHT 3FIVE 3FOUR 3NINE 3ONE 3SEVEN 3SIX 3THREE 3TWO 3ZERO
    2DOUBLE_DANDA 2END_OF_TEXT_MARK 2GAP_FILLER 2INITIAL_RA 2LETTER_A 3AA 3BA 3BHA 3CA 3CHA 3DA 3DDA
    3DDHA 3DHA 3E 3GA 3GHA 3HA 3I 3II 3JA 3KA 3KHA 3LA 3LLA 3MA 3NA 3NGA 3NNA 3NYA 3O 3PA 3PHA 3RA
    3SA 3SHA 3SSA 3TA 3THA 3TTA 3U 3UU 3VA 3YA 3YYA 3ZA 2MEDIAL_RA 3YA 2PREFIXED_NASAL_SIGN
    2SIGN_ANUSVARA 3CANDRABINDU 3HALANTA 3NUKTA 2VIRAMA 2VOWEL_SIGN_AA 4AI 4E 4I 4II 4O 4U 4UU
    0DIVIDES 0DIVING_MASK 0DIVISION_SIGN 1SLASH 1TIMES 0DIVORCE_SYMBOL 0DIYA_LAMP 0DIZZY_FACE
    1SYMBOL 0DLE 0DNA_DOUBLE_HELIX 0DO_NOT_LITTER_SYMBOL 0DOCUMENT 1WITH_PICTURE 2TEXT 3AND_PICTURE
    0DODO 0DOES_NOT_CONTAIN_AS_MEMBER 4NORMAL_SUBGROUP 6OR_EQUAL 2DIVIDE
    3WITH_REVERSED_NEGATION_SLASH 2FORCE 2PRECEDE 3OR_EQUAL 2PROVE 2SUCCEED 3OR_EQUAL 0DOG 1FACE
    0DOGRA_ABBREVIATION_SIGN 1LETTER_A 2AA 2AI 2AU 2BA 2BHA 2CA 2CHA 2DA 2DDA 2DDHA 2DHA 2E 2GA 2GHA
    2HA 2I 2II 2JA 2JHA 2KA 2KHA 2LA 2MA 2NA 2NGA 2NNA 2NYA 2O 2PA 2PHA 2RA 2RRA 2SA 2SHA 2SSA 2TA
    2THA 2TTA 2TTHA 2U 2UU 2VA 2YA 1SIGN_ANUSVARA 2NUKTA 2VIRAMA 2VISARGA 1VOWEL_SIGN_AA 3AI 3AU 3E
    3I 3II 3O 3U 3UU 3VOCALIC_R 4RR 0DOLLAR_SIGN 0DOLPHIN 0DOMINO_TILE_HORIZONTAL_BACK
    2HORIZONTAL-00-00 2HORIZONTAL-00-01 2HORIZONTAL-00-02 2HORIZONTAL-00-03 2HORIZONTAL-00-04
    2HORIZONTAL-00-05 2HORIZONTAL-00-06 2HORIZONTAL-01-00 2HORIZONTAL-01-01 2HORIZONTAL-01-02
    2HORIZONTAL-01-03 2HORIZONTAL-01-04 2HORIZONTAL-01-05 2HORIZONTAL-01-06 2HORIZONTAL-02-00
    2HORIZONTAL-02-01 2HORIZONTAL-02-02 2HORIZONTAL-02-03 2HORIZONTAL-02-04 2HORIZONTAL-02-05
    2HORIZONTAL-02-06 2HORIZONTAL-03-00 2HORIZONTAL-03-01 2HORIZONTAL-03-02 2HORIZONTAL-03-03
    2HORIZONTAL-03-04 2HORIZONTAL-03-05 2HORIZONTAL-03-06 2HORIZONTAL-04-00 2HORIZONTAL-04-01
    2HORIZONTAL-04-02 2HORIZONTAL-04-03 2HORIZONTAL-04-04 2HORIZONTAL-04-05 2HORIZONTAL-04-06
    2HORIZONTAL-05-00 2HORIZONTAL-05-01 2HORIZONTAL-05-02 2HORIZONTAL-05-03 2HORIZONTAL-05-04
    2HORIZONTAL-05-05 2HORIZONTAL-05-06 2HORIZONTAL-06-00 2HORIZONTAL-06-01 2HORIZONTAL-06-02
    2HORIZONTAL-06-03 2HORIZONTAL-06-04 2HORIZONTAL-06-05 2HORIZONTAL-06-06 2VERTICAL_BACK
    2VERTICAL-00-00 2VERTICAL-00-01 2VERTICAL-00-02 2VERTICAL-00-03 2VERTICAL-00-04 2VERTICAL-00-05
    2VERTICAL-00-06 2VERTICAL-01-00 2VERTICAL-01-01 2VERTICAL-01-02 2VERTICAL-01-03 2VERTICAL-01-04
    2VERTICAL-01-05 2VERTICAL-01-06 2VERTICAL-02-00 2VERTICAL-02-01 2VERTICAL-02-02 2VERTICAL-02-03
    2VERTICAL-02-04 2VERTICAL-02-05 2VERTICAL-02-06 2VERTICAL-03-00 2VERTICAL-03-01 2VERTICAL-03-02
    2VERTICAL-03-03 2VERTICAL-03-04 2VERTICAL-03-05 2VERTICAL-03-06 2VERTICAL-04-00 2VERTICAL-04-01
    2VERTICAL-04-02 2VERTICAL-04-03 2VERTICAL-04-04 2VERTICAL-04-05 2VERTICAL-04-06 2VERTICAL-05-00
    2VERTICAL-05-01 2VERTICAL-05-02 2VERTICAL-05-03 2VERTICAL-05-04 2VERTICAL-05-05 2VERTICAL-05-06
    2VERTICAL-06-00 2VERTICAL-06-01 2VERTICAL-06-02 2VERTICAL-06-03 2VERTICAL-06-04 2VERTICAL-06-05
    2VERTICAL-06-06 0DONG_SIGN 0DOOR 0DOT_ABOVE 1MINUS 1OPERATOR 1PLUS 0DOTTED_CIRCLE 1CROSS 1FENCE
    1LINE_FACE 1OBELOS 1RIGHT-POINTING_ANGLE 1SOLIDUS 1SQUARE 1TRANSPOSITION_MARKER
    0DOUBLE_ACUTE_ACCENT 1CIRCLED_DIGIT_EIGHT 3FIVE 3FOUR 3NINE 3ONE 3SEVEN 3SIX 3THREE 3TWO
    2NUMBER_TEN 1COLON_EQUAL 1CURLY_LOOP 1DAGGER 1DOWN_TACK 1EXCLAMATION_MARK
    1HIGH-REVERSED-9_QUOTATION_MARK 1HYPHEN 1INTEGRAL 1INTERSECTION 1LEFT_ARC_GREATER-THAN_BRACKET
    1LOGICAL_AND 2OR 1LOW_LINE 1LOW-9_QUOTATION_MARK 1LOW-REVERSED-9_QUOTATION_MARK
    1NESTED_GREATER-THAN 2LESS-THAN 3WITH_UNDERBAR 1OBLIQUE_HYPHEN 1PLUS 1PRECEDES 1PRIME
    2QUOTATION_MARK 1QUESTION_MARK 1RIGHT_ARC_LESS-THAN_BRACKET 1SOLIDUS_OPERATOR
    1SQUARE_INTERSECTION 2UNION 1STACKED_COMMA 1STROKE_NOT_SIGN 1SUBSET 1SUCCEEDS 1SUPERSET
    1SUSPENSION_MARK 1UNION 1UP_TACK 1VERTICAL_BAR 3DOUBLE_LEFT_TURNSTILE 4RIGHT_TURNSTILE
    3LEFT_TURNSTILE 2LINE 1WAVY_OVERLINE 0DOUBLE-ENDED_MULTIMAP
    0DOUBLE-LINE_EQUAL_TO_OR_GREATER-THAN 4LESS-THAN 1SLANTED_EQUAL_TO_OR_GREATER-THAN 5LESS-THAN
    2GREATER-THAN_OR_EQUAL_TO 2LESS-THAN_OR_EQUAL_TO 0DOUBLE-STRUCK_CAPITAL_C 2GAMMA 2H 2N 2P 2PI 2Q
    2R 2Z 1ITALIC_CAPITAL_D 2SMALL_D 3E 3I 3J 1N-ARY_SUMMATION 1SMALL_GAMMA 2PI 0DOUBLED_FEMALE_SIGN
    1MALE_SIGN 1SYMBOL 0DOUGHNUT 0DOVE_OF_PEACE 0DOWN_ARROWHEAD 1FISH_TAIL 1RIGHT_DIAGONAL_ELLIPSIS
    1TACK 2WITH_CIRCLE_BELOW 0DOWN-POINTING_RED_TRIANGLE 1SMALL_RED_TRIANGLE
    1TRIANGLE_WITH_LEFT_HALF_BLACK 3RIGHT_HALF_BLACK 0DOWNWARD_FACING_HOOK 3WITH_DOT 2NOTCHED_HOOK
    4WITH_DOT 0DOWNWARDS_ANCORA 1ARROW 2AND_RIGHT_ONE_EIGHTH_BLOCK 2FROM_BAR
    2LEFTWARDS_OF_UPWARDS_ARROW 2TO_BAR 2WITH_CORNER_LEFTWARDS 3DOUBLE_STROKE 3EQUILATERAL_ARROWHEAD
    3HORIZONTAL_STROKE 3LARGE_TRIANGLE_ARROWHEAD 3MEDIUM_TRIANGLE_ARROWHEAD 3NOTCHED_TAIL
    3SMALL_EQUILATERAL_ARROWHEAD 4TRIANGLE_ARROWHEAD 3TIP_LEFTWARDS 4RIGHTWARDS 1BLACK_ARROW
    2CIRCLED_WHITE_ARROW 1COMPRESSED_ARROW 1DASHED_ARROW 1DOUBLE_ARROW 1FINGER-POST_ARROW
    1HARPOON_WITH_BARB_LEFT_BESIDE_DOWNWARDS_HARPOON_WITH_BARB_RIGHT
    6UPWARDS_HARPOON_WITH_BARB_RIGHT 5FROM_BAR 5TO_BAR 4LEFTWARDS 4RIGHT_FROM_BAR 5TO_BAR
    4RIGHTWARDS 1HEAVY_ARROW 2COMPRESSED_ARROW 1PAIRED_ARROWS 1QUADRUPLE_ARROW 1ROCKET
    1SANS-SERIF_ARROW 1SQUARED_ARROW 1TRIANGLE_ARROWHEAD 1TRIANGLE-HEADED_ARROW
    3LEFTWARDS_OF_UPWARDS_TRIANGLE-HEADED_ARROW 3TO_BAR 3WITH_BOLD_SHAFT 4DOUBLE_HORIZONTAL_STROKE
    4HEAVY_SHAFT 4LONG_TIP_LEFTWARDS 6RIGHTWARDS 4MEDIUM_SHAFT 4NARROW_SHAFT 4VERY_HEAVY_SHAFT
    2DASHED_ARROW 2PAIRED_ARROWS 2ZIGZAG_ARROW 1TRIPLE_ARROW 1TWO_HEADED_ARROW
    1TWO-HEADED_ARROW_WITH_TRIANGLE_ARROWHEADS 1WHITE_ARROW 3WITHIN_TRIANGLE_ARROWHEAD 1ZIGZAG_ARROW
    0DRACHMA_SIGN 0DRAFTING_POINT_RIGHTWARDS_ARROW 0DRAGON 1FACE 0DRESS 0DRIVE_SLOW_SIGN
    0DROMEDARY_CAMEL 0DROOLING_FACE 0DROP_OF_BLOOD 0DROPLET 0DRUM_WITH_DRUMSTICKS 0DUCK 0DUMPLING
    0DUPLOYAN_AFFIX_ATTACHED_E_HOOK 3I_HOOK 3LEFT-TO-RIGHT_SECANT 3SECANT 3TAIL 3TANGENT 4HOOK
    2HIGH_ACUTE 3CIRCLE 3DOT 3GRAVE 3LINE 3LONG_GRAVE 3TIGHT_ACUTE 3VERTICAL 4SECANT 3WAVE
    2LEFT_HORIZONTAL_SECANT 2LOW_ACUTE 3ARROW 3CIRCLE 3DOT 3GRAVE 3LINE 3LONG_GRAVE 3TIGHT_ACUTE
    3VERTICAL 4SECANT 3WAVE 2MID_HORIZONTAL_SECANT 3VERTICAL_SECANT 2RIGHT_HORIZONTAL_SECANT
    1DOUBLE_MARK 1LETTER_A 2AOU 2B 2D 3S 2DH 2E 2EE 2EU 2F 3N 2G 3R_S 2H 2HL 2I 2IE 2J 3M 4S 3N 4S
    3S 4WITH_DOT 3WITH_DOT 4DOTS_INSIDE_AND_ABOVE 2K 3M 3R_S 2KK 2L 2LH 2LONG_I 3U 2M 3N 4S 3S
    3WITH_DOT 2N 3M 4S 3S 3WITH_DOT 2NASAL_A 3I 3O 3U 2O 2OA 2OOH 2OU 2OW 2P 3N 2PERNIN_AM 3AN 2R 3S
    2RH 2ROMANIAN_I 3U 2S 3J 4S 3K 4R 3M 3N 3P 4R 3S 3T 4R 3WITH_DOT 5BELOW 2SHORT_I 2SLOAN_AN 3DH
    3EE 3EH 3EN 3J 3ON 3OW 3U 2T 3R_S 3S 2TH 2U 3N 2UH 2UI 2V 2VOCALIC_M 2W 3R 2WA 2WEI 2WH 2WI 2WO
    2WOW 2X 2XW 2YE 1PUNCTUATION_CHINOOK_FULL_STOP 1SIGN_O_WITH_CROSS 1THICK_LETTER_SELECTOR 0DVD
    "),
    ('E', "
    0E-MAIL_SYMBOL 0EAGLE 0EAR 1OF_MAIZE 2RICE 1WITH_HEARING_AID 0EARTH 1GLOBE_AMERICAS
    2ASIA-AUSTRALIA 2EUROPE-AFRICA 1GROUND 0EAST_SYRIAC_CROSS 0EDITORIAL_CORONIS 0EGG
    0EGYPTIAN_HIEROGLYPH_A001 2A002 2A003 2A004 2A005 2A005A 2A006 2A006A 2A006B 2A007 2A008 2A009
    2A010 2A011 2A012 2A013 2A014 2A014A 2A015 2A016 2A017 2A017A 2A018 2A019 2A020 2A021 2A022
    2A023 2A024 2A025 2A026 2A027 2A028 2A029 2A030 2A031 2A032 2A032A 2A033 2A034 2A035 2A036 2A037
    2A038 2A039 2A040 2A040A 2A041 2A042 2A042A 2A043 2A043A 2A044 2A045 2A045A 2A046 2A047 2A048
    2A049 2A050 2A051 2A052 2A053 2A054 2A055 2A056 2A057 2A058 2A059 2A060 2A061 2A062 2A063 2A064
    2A065 2A066 2A067 2A068 2A069 2A070 2AA001 2AA002 2AA003 2AA004 2AA005 2AA006 2AA007 2AA007A
    2AA007B 2AA008 2AA009 2AA010 2AA011 2AA012 2AA013 2AA014 2AA015 2AA016 2AA017 2AA018 2AA019
    2AA020 2AA021 2AA022 2AA023 2AA024 2AA025 2AA026 2AA027 2AA028 2AA029 2AA030 2AA031 2AA032 2B001
    2B002 2B003 2B004 2B005 2B005A 2B006 2B007 2B008 2B009 2BEGIN_SEGMENT 2C001 2C002 2C002A 2C002B
    2C002C 2C003 2C004 2C005 2C006 2C007 2C008 2C009 2C010 2C010A 2C011 2C012 2C013 2C014 2C015
    2C016 2C017 2C018 2C019 2C020 2C021 2C022 2C023 2C024 2D001 2D002 2D003 2D004 2D005 2D006 2D007
    2D008 2D008A 2D009 2D010 2D011 2D012 2D013 2D014 2D015 2D016 2D017 2D018 2D019 2D020 2D021 2D022
    2D023 2D024 2D025 2D026 2D027 2D027A 2D028 2D029 2D030 2D031 2D031A 2D032 2D033 2D034 2D034A
    2D035 2D036 2D037 2D038 2D039 2D040 2D041 2D042 2D043 2D044 2D045 2D046 2D046A 2D047 2D048
    2D048A 2D049 2D050 2D050A 2D050B 2D050C 2D050D 2D050E 2D050F 2D050G 2D050H 2D050I 2D051 2D052
    2D052A 2D053 2D054 2D054A 2D055 2D056 2D057 2D058 2D059 2D060 2D061 2D062 2D063 2D064 2D065
    2D066 2D067 2D067A 2D067B 2D067C 2D067D 2D067E 2D067F 2D067G 2D067H 2E001 2E002 2E003 2E004
    2E005 2E006 2E007 2E008 2E008A 2E009 2E009A 2E010 2E011 2E012 2E013 2E014 2E015 2E016 2E016A
    2E017 2E017A 2E018 2E019 2E020 2E020A 2E021 2E022 2E023 2E024 2E025 2E026 2E027 2E028 2E028A
    2E029 2E030 2E031 2E032 2E033 2E034 2E034A 2E036 2E037 2E038 2END_SEGMENT 2F001 2F001A 2F002
    2F003 2F004 2F005 2F006 2F007 2F008 2F009 2F010 2F011 2F012 2F013 2F013A 2F014 2F015 2F016 2F017
    2F018 2F019 2F020 2F021 2F021A 2F022 2F023 2F024 2F025 2F026 2F027 2F028 2F029 2F030 2F031
    2F031A 2F032 2F033 2F034 2F035 2F036 2F037 2F037A 2F038 2F038A 2F039 2F040 2F041 2F042 2F043
    2F044 2F045 2F045A 2F046 2F046A 2F047 2F047A 2F048 2F049 2F050 2F051 2F051A 2F051B 2F051C 2F052
    2F053 2G001 2G002 2G003 2G004 2G005 2G006 2G006A 2G007 2G007A 2G007B 2G008 2G009 2G010 2G011
    2G011A 2G012 2G013 2G014 2G015 2G016 2G017 2G018 2G019 2G020 2G020A 2G021 2G022 2G023 2G024
    2G025 2G026 2G026A 2G027 2G028 2G029 2G030 2G031 2G032 2G033 2G034 2G035 2G036 2G036A 2G037
    2G037A 2G038 2G039 2G040 2G041 2G042 2G043 2G043A 2G044 2G045 2G045A 2G046 2G047 2G048 2G049
    2G050 2G051 2G052 2G053 2G054 2H001 2H002 2H003 2H004 2H005 2H006 2H006A 2H007 2H008
    2HORIZONTAL_JOINER 2I001 2I002 2I003 2I004 2I005 2I005A 2I006 2I007 2I008 2I009 2I009A 2I010
    2I010A 2I011 2I011A 2I012 2I013 2I014 2I015 2INSERT_AT_BOTTOM_END 5START 4TOP_END 5START 2K001
    2K002 2K003 2K004 2K005 2K006 2K007 2K008 2L001 2L002 2L002A 2L003 2L004 2L005 2L006 2L006A
    2L007 2L008 2M001 2M001A 2M001B 2M002 2M003 2M003A 2M004 2M005 2M006 2M007 2M008 2M009 2M010
    2M010A 2M011 2M012 2M012A 2M012B 2M012C 2M012D 2M012E 2M012F 2M012G 2M012H 2M013 2M014 2M015
    2M015A 2M016 2M016A 2M017 2M017A 2M018 2M019 2M020 2M021 2M022 2M022A 2M023 2M024 2M024A 2M025
    2M026 2M027 2M028 2M028A 2M029 2M030 2M031 2M031A 2M032 2M033 2M033A 2M033B 2M034 2M035 2M036
    2M037 2M038 2M039 2M040 2M040A 2M041 2M042 2M043 2M044 2N001 2N002 2N003 2N004 2N005 2N006 2N007
    2N008 2N009 2N010 2N011 2N012 2N013 2N014 2N015 2N016 2N017 2N018 2N018A 2N018B 2N019 2N020
    2N021 2N022 2N023 2N024 2N025 2N025A 2N026 2N027 2N028 2N029 2N030 2N031 2N032 2N033 2N033A
    2N034 2N034A 2N035 2N035A 2N036 2N037 2N037A 2N038 2N039 2N040 2N041 2N042 2NL001 2NL002 2NL003
    2NL004 2NL005 2NL005A 2NL006 2NL007 2NL008 2NL009 2NL010 2NL011 2NL012 2NL013 2NL014 2NL015
    2NL016 2NL017 2NL017A 2NL018 2NL019 2NL020 2NU001 2NU002 2NU003 2NU004 2NU005 2NU006 2NU007
    2NU008 2NU009 2NU010 2NU010A 2NU011 2NU011A 2NU012 2NU013 2NU014 2NU015 2NU016 2NU017 2NU018
    2NU018A 2NU019 2NU020 2NU021 2NU022 2NU022A 2O001 2O001A 2O002 2O003 2O004 2O005 2O005A 2O006
    2O006A 2O006B 2O006C 2O006D 2O006E 2O006F 2O007 2O008 2O009 2O010 2O010A 2O010B 2O010C 2O011
    2O012 2O013 2O014 2O015 2O016 2O017 2O018 2O019 2O019A 2O020 2O020A 2O021 2O022 2O023 2O024
    2O024A 2O025 2O025A 2O026 2O027 2O028 2O029 2O029A 2O030 2O030A 2O031 2O032 2O033 2O033A 2O034
    2O035 2O036 2O036A 2O036B 2O036C 2O036D 2O037 2O038 2O039 2O040 2O041 2O042 2O043 2O044 2O045
    2O046 2O047 2O048 2O049 2O050 2O050A 2O050B 2O051 2OVERLAY_MIDDLE 2P001 2P001A 2P002 2P003
    2P003A 2P004 2P005 2P006 2P007 2P008 2P009 2P010 2P011 2Q001 2Q002 2Q003 2Q004 2Q005 2Q006 2Q007
    2R001 2R002 2R002A 2R003 2R003A 2R003B 2R004 2R005 2R006 2R007 2R008 2R009 2R010 2R010A 2R011
    2R012 2R013 2R014 2R015 2R016 2R016A 2R017 2R018 2R019 2R020 2R021 2R022 2R023 2R024 2R025 2R026
    2R027 2R028 2R029 2S001 2S002 2S002A 2S003 2S004 2S005 2S006 2S006A 2S007 2S008 2S009 2S010
    2S011 2S012 2S013 2S014 2S014A 2S014B 2S015 2S016 2S017 2S017A 2S018 2S019 2S020 2S021 2S022
    2S023 2S024 2S025 2S026 2S026A 2S026B 2S027 2S028 2S029 2S030 2S031 2S032 2S033 2S034 2S035
    2S035A 2S036 2S037 2S038 2S039 2S040 2S041 2S042 2S043 2S044 2S045 2S046 2T001 2T002 2T003
    2T003A 2T004 2T005 2T006 2T007 2T007A 2T008 2T008A 2T009 2T009A 2T010 2T011 2T011A 2T012 2T013
    2T014 2T015 2T016 2T016A 2T017 2T018 2T019 2T020 2T021 2T022 2T023 2T024 2T025 2T026 2T027 2T028
    2T029 2T030 2T031 2T032 2T032A 2T033 2T033A 2T034 2T035 2T036 2U001 2U002 2U003 2U004 2U005
    2U006 2U006A 2U006B 2U007 2U008 2U009 2U010 2U011 2U012 2U013 2U014 2U015 2U016 2U017 2U018
    2U019 2U020 2U021 2U022 2U023 2U023A 2U024 2U025 2U026 2U027 2U028 2U029 2U029A 2U030 2U031
    2U032 2U032A 2U033 2U034 2U035 2U036 2U037 2U038 2U039 2U040 2U041 2U042 2V001 2V001A 2V001B
    2V001C 2V001D 2V001E 2V001F 2V001G 2V001H 2V001I 2V002 2V002A 2V003 2V004 2V005 2V006 2V007
    2V007A 2V007B 2V008 2V009 2V010 2V011 2V011A 2V011B 2V011C 2V012 2V012A 2V012B 2V013 2V014 2V015
    2V016 2V017 2V018 2V019 2V020 2V020A 2V020B 2V020C 2V020D 2V020E 2V020F 2V020G 2V020H 2V020I
    2V020J 2V020K 2V020L 2V021 2V022 2V023 2V023A 2V024 2V025 2V026 2V027 2V028 2V028A 2V029 2V029A
    2V030 2V030A 2V031 2V031A 2V032 2V033 2V033A 2V034 2V035 2V036 2V037 2V037A 2V038 2V039 2V040
    2V040A 2VERTICAL_JOINER 2W001 2W002 2W003 2W003A 2W004 2W005 2W006 2W007 2W008 2W009 2W009A
    2W010 2W010A 2W011 2W012 2W013 2W014 2W014A 2W015 2W016 2W017 2W017A 2W018 2W018A 2W019 2W020
    2W021 2W022 2W023 2W024 2W024A 2W025 2X001 2X002 2X003 2X004 2X004A 2X004B 2X005 2X006 2X006A
    2X007 2X008 2X008A 2Y001 2Y001A 2Y002 2Y003 2Y004 2Y005 2Y006 2Y007 2Y008 2Z001 2Z002 2Z002A
    2Z002B 2Z002C 2Z002D 2Z003 2Z003A 2Z003B 2Z004 2Z004A 2Z005 2Z005A 2Z006 2Z007 2Z008 2Z009 2Z010
    2Z011 2Z012 2Z013 2Z014 2Z015 2Z015A 2Z015B 2Z015C 2Z015D 2Z015E 2Z015F 2Z015G 2Z015H 2Z015I
    2Z016 2Z016A 2Z016B 2Z016C 2Z016D 2Z016E 2Z016F 2Z016G 2Z016H
    0EIGHT_PETALLED_OUTLINED_BLACK_FLORETTE 1POINTED_BLACK_STAR 2PINWHEEL_STAR
    2RECTILINEAR_BLACK_STAR 1SPOKED_ASTERISK 1TEARDROP-SPOKED_PROPELLER_ASTERISK 0EIGHTH_NOTE
    0EJECT_SYMBOL 0ELBASAN_LETTER_A 2BE 2CE 2CHE 2DE 2DHE 2E 2EI 2FE 2GE 2GHAMMA 2GHE 2GJE 2HE 2I
    2JE 2KE 2KHE 2LE 2LLE 2ME 2NA 2NDE 2NE 2NJE 2O 2PE 2QE 2RE 2RRE 2SE 2SHE 2TE 2THE 2U 2VE 2XE 2Y
    2ZE 2ZHE 0ELECTRIC_ARROW 1LIGHT_BULB 1PLUG 1TORCH 0ELECTRICAL_INTERSECTION 0ELEMENT_OF
    2OPENING_DOWNWARDS 3UPWARDS 2WITH_DOT_ABOVE 3LONG_HORIZONTAL_STROKE 3OVERBAR
    3TWO_HORIZONTAL_STROKES 3UNDERBAR 3VERTICAL_BAR_AT_END_OF_HORIZONTAL_STROKE 0ELEPHANT 0ELEVATOR
    0ELF 0ELYMAIC_LETTER_ALEPH 2AYIN 2BETH 2DALETH 2GIMEL 2HE 2HETH 2KAPH 2LAMEDH 2MEM 2NUN 2PE
    2QOPH 2RESH 2SADHE 2SAMEKH 2SHIN 2TAW 2TETH 2WAW 2YODH 2ZAYIN 1LIGATURE_ZAYIN-YODH 0EM_DASH
    1QUAD 1SPACE 0EMOJI_COMPONENT_BALD 2CURLY_HAIR 2RED_HAIR 2WHITE_HAIR
    1MODIFIER_FITZPATRICK_TYPE-1-2 3TYPE-3 3TYPE-4 3TYPE-5 3TYPE-6 0EMPHASIS_SYMBOL 0EMPTY_DOCUMENT
    1NEST 1NOTE 2PAD 2PAGE 1PAGE 1PAGES 1SET 2WITH_LEFT_ARROW_ABOVE 3OVERBAR 3RIGHT_ARROW_ABOVE
    3SMALL_CIRCLE_ABOVE 0EN_DASH 1QUAD 1SPACE 0END_OF_GUARDED_AREA 2LINE 2MEDIUM 2PROOF
    2PROTECTED_AREA 2SELECTED_AREA 2TEXT 2TRANSMISSION 3BLOCK 1WITH_LEFTWARDS_ARROW_ABOVE 0ENQ
    0ENQUIRY 0ENTER_SYMBOL 0ENVELOPE 1WITH_DOWNWARDS_ARROW_ABOVE 2LIGHTNING 0EOL 0EOM 0EOT 0EPA
    0EQUAL_AND_PARALLEL_TO 1TO_BY_DEFINITION 2OR_GREATER-THAN 3LESS-THAN 3PRECEDES 3SUCCEEDS
    0EQUALS_COLON 1SIGN 2ABOVE_LEFTWARDS_ARROW 3PLUS_SIGN 3RIGHTWARDS_ARROW 3TILDE_OPERATOR
    2AND_SLANTED_PARALLEL 5WITH_TILDE_ABOVE 2WITH_BUMPY_ABOVE 3DOT_BELOW 3INFINITY_BELOW
    3TWO_DOTS_ABOVE_AND_TWO_DOTS_BELOW 1WITH_ASTERISK 0EQUIANGULAR_TO 0EQUIVALENT_TO
    1WITH_FOUR_DOTS_ABOVE 0ERASE_TO_THE_LEFT 3RIGHT 0ERIS_FORM_ONE 2TWO 0ERROR-BARRED_BLACK_CIRCLE
    2DIAMOND 2SQUARE 1WHITE_CIRCLE 2DIAMOND 2SQUARE 0ESA 0ESC 0ESCAPE 0ESTIMATED_SYMBOL 0ESTIMATES
    0ETB 0ETHIOPIC_COLON 1COMBINING_GEMINATION_AND_VOWEL_LENGTH_MARK 3MARK 2VOWEL_LENGTH_MARK 1COMMA
    1DIGIT_EIGHT 2FIVE 2FOUR 2NINE 2ONE 2SEVEN 2SIX 2THREE 2TWO 1FULL_STOP 1NUMBER_EIGHTY 2FIFTY
    2FORTY 2HUNDRED 2NINETY 2SEVENTY 2SIXTY 2TEN 3THOUSAND 2THIRTY 2TWENTY 1PARAGRAPH_SEPARATOR
    1PREFACE_COLON 1QUESTION_MARK 1SECTION_MARK 1SEMICOLON 1SYLLABLE_BA 2BAA 2BBA 2BBAA 2BBE 2BBEE
    2BBI 2BBO 2BBU 2BE 2BEE 2BI 2BO 2BOA 2BU 2BWA 2BWE 2BWEE 2BWI 2CA 2CAA 2CCA 2CCAA 2CCE 2CCEE
    2CCHA 2CCHAA 2CCHE 2CCHEE 2CCHHA 2CCHHAA 2CCHHE 2CCHHEE 2CCHHI 2CCHHO 2CCHHU 2CCHI 2CCHO 2CCHU
    2CCI 2CCO 2CCU 2CE 2CEE 2CHA 2CHAA 2CHE 2CHEE 2CHI 2CHO 2CHOA 2CHU 2CHWA 2CI 2CO 2COA 2CU 2CWA
    2DA 2DAA 2DDA 2DDAA 2DDE 2DDEE 2DDHAA 2DDHE 2DDHEE 2DDHI 2DDHO 2DDHU 2DDI 2DDO 2DDOA 2DDU 2DDWA
    2DE 2DEE 2DI 2DO 2DOA 2DU 2DWA 2DZAA 2DZE 2DZEE 2DZI 2DZO 2DZU 2FA 2FAA 2FE 2FEE 2FI 2FO 2FU
    2FWA 2FWE 2FWEE 2FWI 2FYA 2GA 2GAA 2GE 2GEE 2GGA 2GGAA 2GGE 2GGEE 2GGI 2GGO 2GGU 2GGWA 2GGWAA
    2GGWE 2GGWEE 2GGWI 2GI 2GLOTTAL_A 3AA 3E 3EE 3I 3O 3OA 3U 3WA 2GO 2GOA 2GU 2GURAGE_BWEE 3BWI
    3FWEE 3FWI 3GWE 3GWEE 3GWI 3HHWA 3KWE 3KWEE 3KWI 3MWEE 3MWI 3PWEE 3PWI 3QWE 3QWEE 3QWI 2GWA
    2GWAA 2GWE 2GWEE 2GWI 2GYA 2GYAA 2GYE 2GYEE 2GYI 2GYO 2GYU 2HA 2HAA 2HE 2HEE 2HHA 2HHAA 2HHE
    2HHEE 2HHI 2HHO 2HHU 2HHWA 2HHWE 2HHWEE 2HHWI 2HHYA 2HHYAA 2HHYE 2HHYEE 2HHYI 2HHYO 2HHYU 2HI
    2HO 2HOA 2HU 2JA 2JAA 2JE 2JEE 2JI 2JO 2JOA 2JU 2JWA 2KA 2KAA 2KE 2KEE 2KI 2KO 2KOA 2KU 2KWA
    2KWAA 2KWE 2KWEE 2KWI 2KXA 2KXAA 2KXE 2KXEE 2KXI 2KXO 2KXU 2KXWA 2KXWAA 2KXWE 2KXWEE 2KXWI 2KYA
    2KYAA 2KYE 2KYEE 2KYI 2KYO 2KYU 2LA 2LAA 2LE 2LEE 2LI 2LO 2LOA 2LU 2LWA 2MA 2MAA 2ME 2MEE 2MI
    2MO 2MOA 2MU 2MWA 2MWE 2MWEE 2MWI 2MYA 2NA 2NAA 2NE 2NEE 2NI 2NO 2NOA 2NU 2NWA 2NYA 2NYAA 2NYE
    2NYEE 2NYI 2NYO 2NYOA 2NYU 2NYWA 2PA 2PAA 2PE 2PEE 2PHA 2PHAA 2PHARYNGEAL_A 3AA 3E 3EE 3I 3O 3U
    2PHE 2PHEE 2PHI 2PHO 2PHOA 2PHU 2PHWA 2PI 2PO 2POA 2PU 2PWA 2PWE 2PWEE 2PWI 2QA 2QAA 2QE 2QEE
    2QHA 2QHAA 2QHE 2QHEE 2QHI 2QHO 2QHU 2QHWA 2QHWAA 2QHWE 2QHWEE 2QHWI 2QI 2QO 2QOA 2QU 2QWA 2QWAA
    2QWE 2QWEE 2QWI 2QYA 2QYAA 2QYE 2QYEE 2QYI 2QYO 2QYU 2RA 2RAA 2RE 2REE 2RI 2RO 2ROA 2RU 2RWA
    2RYA 2SA 2SAA 2SE 2SEBATBEIT_BWA 3FWA 3MWA 3PWA 2SEE 2SHA 2SHAA 2SHE 2SHEE 2SHI 2SHO 2SHOA 2SHU
    2SHWA 2SI 2SO 2SOA 2SSA 2SSAA 2SSE 2SSEE 2SSI 2SSO 2SSU 2SU 2SWA 2SZA 2SZAA 2SZE 2SZEE 2SZI 2SZO
    2SZU 2SZWA 2TA 2TAA 2TE 2TEE 2THA 2THAA 2THE 2THEE 2THI 2THO 2THOA 2THU 2THWA 2TI 2TO 2TOA 2TSA
    2TSAA 2TSE 2TSEE 2TSI 2TSO 2TSU 2TSWA 2TTHAA 2TTHE 2TTHEE 2TTHI 2TTHO 2TTHU 2TU 2TWA 2TZA 2TZAA
    2TZE 2TZEE 2TZI 2TZO 2TZOA 2TZU 2VA 2VAA 2VE 2VEE 2VI 2VO 2VU 2VWA 2WA 2WAA 2WE 2WEE 2WI 2WO
    2WOA 2WU 2XA 2XAA 2XE 2XEE 2XI 2XO 2XOA 2XU 2XWA 2XWAA 2XWE 2XWEE 2XWI 2XYA 2XYAA 2XYE 2XYEE
    2XYI 2XYO 2XYU 2YA 2YAA 2YE 2YEE 2YI 2YO 2YOA 2YU 2ZA 2ZAA 2ZE 2ZEE 2ZHA 2ZHAA 2ZHE 2ZHEE 2ZHI
    2ZHO 2ZHU 2ZHWA 2ZI 2ZO 2ZOA 2ZU 2ZWA 2ZZA 2ZZAA 2ZZE 2ZZEE 2ZZI 2ZZO 2ZZU 1TONAL_MARK_CHIRET
    3DERET 3DERET-HIDET 3DIFAT 3HIDET 3KENAT 3KURT 3RIKRIK 3SHORT_RIKRIK 3YIZET 1WORDSPACE 0ETX
    0EULER_CONSTANT 0EURO_SIGN 0EURO-CURRENCY_SIGN 0EUROPEAN_CASTLE 1POST_OFFICE 0EVERGREEN_TREE
    0EXCESS 0EXCLAMATION_MARK 1QUESTION_MARK 0EXPRESSIONLESS_FACE 0EXTENDED_ARABIC-INDIC_DIGIT_EIGHT
    3FIVE 3FOUR 3NINE 3ONE 3SEVEN 3SIX 3THREE 3TWO 3ZERO 0EXTRATERRESTRIAL_ALIEN
    0EXTREMELY_HEAVY_FIVE_SPOKED_ASTERISK 2GREEK_CROSS 2SALTIRE 2SIX_SPOKED_ASTERISK 2WHITE_CIRCLE
    3SQUARE 0EYE 0EYEGLASSES 0EYES
    "),
    ('F', "
    0FACE_HOLDING_BACK_TEARS 1MASSAGE 1PALM 1SAVOURING_DELICIOUS_FOOD 1SCREAMING_IN_FEAR
    1THROWING_A_KISS 1WITH_COLD_SWEAT 2COWBOY_HAT 2DIAGONAL_MOUTH 2FINGER_COVERING_CLOSED_LIPS
    2HEAD-BANDAGE 2LOOK_OF_TRIUMPH 2MEDICAL_MASK 2MONOCLE 2NO_GOOD_GESTURE 2OK_GESTURE
    2ONE_EYEBROW_RAISED 2OPEN_EYES_AND_HAND_OVER_MOUTH 3MOUTH 4AND_COLD_SWEAT 4VOMITING
    2PARTY_HORN_AND_PARTY_HAT 2PEEKING_EYE 2PLEADING_EYES 2ROLLING_EYES 2STUCK-OUT_TONGUE
    4AND_TIGHTLY-CLOSED_EYES 5WINKING_EYE 2TEARS_OF_JOY 2THERMOMETER 2UNEVEN_EYES_AND_WAVY_MOUTH
    1WITHOUT_MOUTH 0FACSIMILE_SIGN 0FACTORY 0FAIRY 0FALAFEL 0FALLEN_LEAF
    0FALLING_DIAGONAL_CROSSING_NORTH_EAST_ARROW 3RISING_DIAGONAL 2IN_WHITE_CIRCLE_IN_BLACK_SQUARE
    0FAMILY 0FARSI_SYMBOL 0FATHER_CHRISTMAS 0FAX_ICON 1MACHINE 0FEARFUL_FACE 0FEATHER 0FEMALE_SIGN
    0FEMININE_ORDINAL_INDICATOR 0FENCER 0FERRIS_WHEEL 0FERRY 0FF 0FIELD_HOCKEY_STICK_AND_BALL
    0FIGURE_DASH 1SPACE 0FILE_CABINET 1FOLDER 1SEPARATOR 0FILM_FRAMES 1PROJECTOR
    0FINITE_PART_INTEGRAL 0FIRE 1ENGINE 1EXTINGUISHER 0FIRECRACKER 0FIREWORK_SPARKLER 0FIREWORKS
    0FIRST_PLACE_MEDAL 1QUARTER_MOON 3SYMBOL 3WITH_FACE 1STRONG_ISOLATE 0FISH
    1CAKE_WITH_SWIRL_DESIGN 0FISHEYE 0FISHING_POLE_AND_FISH 0FISTED_HAND_SIGN 0FIVE_DOT_MARK
    2PUNCTUATION 0FLAG_IN_HOLE 0FLAMINGO 0FLAT_SHOE 0FLATBREAD 0FLATNESS 0FLEUR-DE-LIS
    0FLEXED_BICEPS 0FLOPPY_DISK 0FLORAL_HEART 0FLOWER 1PLAYING_CARDS 1PUNCTUATION_MARK 0FLUSHED_FACE
    0FLY 0FLYING_DISC 1ENVELOPE 1SAUCER 0FOG 0FOGGY 0FOLDER 0FONDUE 0FOOT 0FOOTPRINTS 0FOR_ALL
    0FORCES 0FORK_AND_KNIFE 3WITH_PLATE 0FORKED_PARAGRAPHOS 0FORKING 0FORM_FEED 0FORTUNE_COOKIE
    0FOUNTAIN 0FOUR_BALLOON-SPOKED_ASTERISK 1CLUB-SPOKED_ASTERISK
    1CORNER_ARROWS_CIRCLING_ANTICLOCKWISE 1DOT_MARK 2PUNCTUATION 1LEAF_CLOVER 1POINTED_BLACK_STAR
    1TEARDROP-SPOKED_ASTERISK 0FOUR-PER-EM_SPACE 0FOURTH_ROOT 0FOX_FACE 0FRACTION_NUMERATOR_ONE
    1SLASH 0FRAME_WITH_AN_X 2PICTURE 2TILES 0FREEZING_FACE 0FRENCH_FRANC_SIGN 1FRIES 0FRIED_SHRIMP
    0FROG_FACE 0FRONT-FACING_BABY_CHICK 0FRONT-TILTED_SHADOWED_WHITE_RIGHTWARDS_ARROW 0FROWN
    0FROWNING_FACE_WITH_OPEN_MOUTH 0FS 0FSI 0FUEL_PUMP 0FULL_BLOCK 1MOON_SYMBOL 2WITH_FACE
    1OUTER_JOIN 1STOP 0FULLWIDTH_AMPERSAND 1APOSTROPHE 1ASTERISK 1BROKEN_BAR 1CENT_SIGN
    1CIRCUMFLEX_ACCENT 1COLON 1COMMA 1COMMERCIAL_AT 1DIGIT_EIGHT 2FIVE 2FOUR 2NINE 2ONE 2SEVEN 2SIX
    2THREE 2TWO 2ZERO 1DOLLAR_SIGN 1EQUALS_SIGN 1EXCLAMATION_MARK 1FULL_STOP 1GRAVE_ACCENT
    1GREATER-THAN_SIGN 1HYPHEN-MINUS 1LATIN_CAPITAL_LETTER_A 4B 4C 4D 4E 4F 4G 4H 4I 4J 4K 4L 4M 4N
    4O 4P 4Q 4R 4S 4T 4U 4V 4W 4X 4Y 4Z 2SMALL_LETTER_A 4B 4C 4D 4E 4F 4G 4H 4I 4J 4K 4L 4M 4N 4O 4P
    4Q 4R 4S 4T 4U 4V 4W 4X 4Y 4Z 1LEFT_CURLY_BRACKET 2PARENTHESIS 2SQUARE_BRACKET
    2WHITE_PARENTHESIS 1LESS-THAN_SIGN 1LOW_LINE 1MACRON 1NOT_SIGN 1NUMBER_SIGN 1PERCENT_SIGN
    1PLUS_SIGN 1POUND_SIGN 1QUESTION_MARK 1QUOTATION_MARK 1REVERSE_SOLIDUS 1RIGHT_CURLY_BRACKET
    2PARENTHESIS 2SQUARE_BRACKET 2WHITE_PARENTHESIS 1SEMICOLON 1SOLIDUS 1TILDE 1VERTICAL_LINE
    1WON_SIGN 1YEN_SIGN 0FUNCTION_APPLICATION 0FUNERAL_URN 0FUSE 0FVS1 0FVS2 0FVS3 0FVS4
    "),
    ('G', "
    0GAME_DIE 0GARLIC 0GEAR 1WITH_HANDLES 1WITHOUT_HUB 0GEM_STONE 0GEMINI 0GENIE
    0GEOMETRIC_PROPORTION 0GEOMETRICALLY_EQUAL_TO 1EQUIVALENT_TO 0GEORGIAN_CAPITAL_LETTER_AEN 3AN
    3BAN 3CAN 3CHAR 3CHIN 3CIL 3DON 3EN 3GAN 3GHAN 3HAE 3HAR 3HE 3HIE 3HOE 3IN 3JHAN 3JIL 3KAN 3KHAR
    3LAS 3MAN 3NAR 3ON 3PAR 3PHAR 3QAR 3RAE 3SAN 3SHIN 3TAN 3TAR 3UN 3VIN 3WE 3XAN 3YN 3ZEN 3ZHAR
    1LETTER_AEN 2AIN 2AN 2BAN 2CAN 2CHAR 2CHIN 2CIL 2DON 2ELIFI 2EN 2FI 2GAN 2GHAN 2HAE 2HAR
    2HARD_SIGN 2HE 2HIE 2HOE 2IN 2JHAN 2JIL 2KAN 2KHAR 2LABIAL_SIGN 2LAS 2MAN 2NAR 2ON 2PAR 2PHAR
    2QAR 2RAE 2SAN 2SHIN 2TAN 2TAR 2TURNED_GAN 2UN 2VIN 2WE 2XAN 2YN 2ZEN 2ZHAR
    1MTAVRULI_CAPITAL_LETTER_AEN 4AIN 4AN 4BAN 4CAN 4CHAR 4CHIN 4CIL 4DON 4ELIFI 4EN 4FI 4GAN 4GHAN
    4HAE 4HAR 4HARD_SIGN 4HE 4HIE 4HOE 4IN 4JHAN 4JIL 4KAN 4KHAR 4LABIAL_SIGN 4LAS 4MAN 4NAR 4ON
    4PAR 4PHAR 4QAR 4RAE 4SAN 4SHIN 4TAN 4TAR 4TURNED_GAN 4UN 4VIN 4WE 4XAN 4YN 4ZEN 4ZHAR
    1PARAGRAPH_SEPARATOR 1SMALL_LETTER_AEN 3AN 3BAN 3CAN 3CHAR 3CHIN 3CIL 3DON 3EN 3GAN 3GHAN 3HAE
    3HAR 3HE 3HIE 3HOE 3IN 3JHAN 3JIL 3KAN 3KHAR 3LAS 3MAN 3NAR 3ON 3PAR 3PHAR 3QAR 3RAE 3SAN 3SHIN
    3TAN 3TAR 3UN 3VIN 3WE 3XAN 3YN 3ZEN 3ZHAR 0GERMAN_PENNY_SIGN 0GETA_MARK 0GHOST 0GIMEL_SYMBOL
    0GIRAFFE_FACE 0GIRL 0GIRLS_SYMBOL 0GLAGOLITIC_CAPITAL_LETTER_AZU 3BIG_YUS 3BUKY 3CAUDATE_CHRIVI
    3CHRIVI 3DJERVI 3DOBRO 3DZELO 3FITA 3FRITU 3GLAGOLI 3HERU 3I 3INITIAL_IZHE 3IOTATED_BIG_YUS
    4SMALL_YUS 3IZHE 3IZHITSA 3KAKO 3LATINATE_MYSLITE 3LJUDIJE 3MYSLITE 3NASHI 3ONU 3OTU 3PE 3POKOJI
    3RITSI 3SHA 3SHTA 3SHTAPIC 3SLOVO 3SMALL_YUS 5WITH_TAIL 3SPIDERY_HA 3TROKUTASTI_A 3TSI 3TVRIDO
    3UKU 3VEDE 3YATI 3YERI 3YERU 3YESTU 3YO 3YU 3ZEMLJA 3ZHIVETE 1SMALL_LETTER_AZU 3BIG_YUS 3BUKY
    3CAUDATE_CHRIVI 3CHRIVI 3DJERVI 3DOBRO 3DZELO 3FITA 3FRITU 3GLAGOLI 3HERU 3I 3INITIAL_IZHE
    3IOTATED_BIG_YUS 4SMALL_YUS 3IZHE 3IZHITSA 3KAKO 3LATINATE_MYSLITE 3LJUDIJE 3MYSLITE 3NASHI 3ONU
    3OTU 3PE 3POKOJI 3RITSI 3SHA 3SHTA 3SHTAPIC 3SLOVO 3SMALL_YUS 5WITH_TAIL 3SPIDERY_HA
    3TROKUTASTI_A 3TSI 3TVRIDO 3UKU 3VEDE 3YATI 3YERI 3YERU 3YESTU 3YO 3YU 3ZEMLJA 3ZHIVETE
    0GLASS_OF_MILK 0GLEICH_STARK 0GLOBE_WITH_MERIDIANS 0GLOVES 0GLOWING_STAR 0GOAL_NET 0GOAT
    0GOGGLES 0GOLFER 0GORILLA 0GOTHIC_LETTER_AHSA 2AIHVUS 2BAIRKAN 2DAGS 2EIS 2FAIHU 2GIBA 2HAGL
    2HWAIR 2IGGWS 2IUJA 2JER 2KUSMA 2LAGUS 2MANNA 2NAUTHS 2NINE_HUNDRED 2NINETY 2OTHAL 2PAIRTHRA
    2QAIRTHRA 2RAIDA 2SAUIL 2TEIWS 2THIUTH 2URUS 2WINJA 0GRADUATION_CAP 0GRANTHA_AU_LENGTH_MARK
    1LETTER_A 2AA 2AI 2AU 2BA 2BHA 2CA 2CHA 2DA 2DDA 2DDHA 2DHA 2EE 2GA 2GHA 2HA 2I 2II 2JA 2JHA 2KA
    2KHA 2LA 2LLA 2MA 2NA 2NGA 2NNA 2NYA 2OO 2PA 2PHA 2RA 2SA 2SHA 2SSA 2TA 2THA 2TTA 2TTHA 2U 2UU
    2VA 2VEDIC_ANUSVARA 3DOUBLE_ANUSVARA 2VOCALIC_L 3LL 3R 3RR 2YA 1OM 1SIGN_ANUSVARA 2AVAGRAHA
    2CANDRABINDU 2COMBINING_ANUSVARA_ABOVE 2NUKTA 2PLUTA 2VIRAMA 2VISARGA 1VOWEL_SIGN_AA 3AI 3AU 3EE
    3I 3II 3OO 3U 3UU 3VOCALIC_L 4LL 4R 4RR 0GRAPES 0GRAVE_ACCENT
    0GREATER-THAN_ABOVE_DOUBLE-LINE_EQUAL_ABOVE_LESS-THAN 2LESS-THAN_ABOVE_DOUBLE-LINE_EQUAL
    2RIGHTWARDS_ARROW 2SIMILAR_ABOVE_LESS-THAN 3OR_EQUAL
    2SLANTED_EQUAL_ABOVE_LESS-THAN_ABOVE_SLANTED_EQUAL 1AND_NOT_APPROXIMATE
    2SINGLE-LINE_NOT_EQUAL_TO 1BESIDE_LESS-THAN 1BUT_NOT_EQUAL_TO 3EQUIVALENT_TO 1CLOSED_BY_CURVE
    4ABOVE_SLANTED_EQUAL 1EQUAL_TO_OR_LESS-THAN 1OR_APPROXIMATE 2EQUAL_TO 2EQUIVALENT_TO 2LESS-THAN
    2SLANTED_EQUAL_TO 5WITH_DOT_ABOVE 8LEFT 7INSIDE 1OVER_EQUAL_TO 1OVERLAPPING_LESS-THAN 1SIGN
    1WITH_CIRCLE_INSIDE 2DOT 2QUESTION_MARK_ABOVE 0GREEK_ACROPHONIC_ATTIC_FIFTY 4STATERS 4TALENTS
    4THOUSAND 5STATERS 3FIVE 4HUNDRED 5STATERS 5TALENTS 4STATERS 4TALENTS 4THOUSAND 5TALENTS
    3ONE_DRACHMA 4HALF 4HUNDRED_STATERS 5TALENTS 4QUARTER 4THOUSAND_STATERS 5TALENTS 3TEN_MNAS
    4STATERS 4TALENTS 4THOUSAND_STATERS 2CARYSTIAN_FIVE_HUNDRED 2CYRENAIC_TWO_DRACHMAS
    2DELPHIC_FIVE_MNAS 2EPIDAUREAN_FIVE_HUNDRED 3TWO 4DRACHMAS 2HERAEUM_ONE_PLETHRON
    2HERMIONIAN_FIFTY 3ONE 3TEN 2MESSENIAN_TEN 2NAXIAN_FIVE_HUNDRED 2STRATIAN_FIFTY_MNAS
    2THESPIAN_FIFTY 3FIVE_HUNDRED 4THOUSAND 3ONE 4HUNDRED 4THOUSAND 3TEN 3THIRTY 3THREE_HUNDRED 3TWO
    2TROEZENIAN_FIFTY 4ALTERNATE_FORM 3FIVE 4HUNDRED 3TEN 4ALTERNATE_FORM 1ANO_TELEIA 1AROURA_SIGN
    1ARTABE_SIGN 1BETA_SYMBOL 1CAPITAL_DOTTED_LUNATE_SIGMA_SYMBOL 2KAI_SYMBOL 2LETTER_ALPHA
    4WITH_DASIA 6AND_OXIA 8AND_PROSGEGRAMMENI 7PERISPOMENI 8AND_PROSGEGRAMMENI 7PROSGEGRAMMENI
    7VARIA 8AND_PROSGEGRAMMENI 5MACRON 5OXIA 5PROSGEGRAMMENI 5PSILI 6AND_OXIA 8AND_PROSGEGRAMMENI
    7PERISPOMENI 8AND_PROSGEGRAMMENI 7PROSGEGRAMMENI 7VARIA 8AND_PROSGEGRAMMENI 5TONOS 5VARIA
    5VRACHY 3ARCHAIC_SAMPI 3BETA 3CHI 3DELTA 3EPSILON 4WITH_DASIA 6AND_OXIA 7VARIA 5OXIA 5PSILI
    6AND_OXIA 7VARIA 5TONOS 5VARIA 3ETA 4WITH_DASIA 6AND_OXIA 8AND_PROSGEGRAMMENI 7PERISPOMENI
    8AND_PROSGEGRAMMENI 7PROSGEGRAMMENI 7VARIA 8AND_PROSGEGRAMMENI 5OXIA 5PROSGEGRAMMENI 5PSILI
    6AND_OXIA 8AND_PROSGEGRAMMENI 7PERISPOMENI 8AND_PROSGEGRAMMENI 7PROSGEGRAMMENI 7VARIA
    8AND_PROSGEGRAMMENI 5TONOS 5VARIA 3GAMMA 3HETA 3IOTA 4WITH_DASIA 6AND_OXIA 7PERISPOMENI 7VARIA
    5DIALYTIKA 5MACRON 5OXIA 5PSILI 6AND_OXIA 7PERISPOMENI 7VARIA 5TONOS 5VARIA 5VRACHY 3KAPPA
    3LAMDA 3MU 3NU 3OMEGA 4WITH_DASIA 6AND_OXIA 8AND_PROSGEGRAMMENI 7PERISPOMENI 8AND_PROSGEGRAMMENI
    7PROSGEGRAMMENI 7VARIA 8AND_PROSGEGRAMMENI 5OXIA 5PROSGEGRAMMENI 5PSILI 6AND_OXIA
    8AND_PROSGEGRAMMENI 7PERISPOMENI 8AND_PROSGEGRAMMENI 7PROSGEGRAMMENI 7VARIA 8AND_PROSGEGRAMMENI
    5TONOS 5VARIA 3OMICRON 4WITH_DASIA 6AND_OXIA 7VARIA 5OXIA 5PSILI 6AND_OXIA 7VARIA 5TONOS 5VARIA
    3PAMPHYLIAN_DIGAMMA 3PHI 3PI 3PSI 3RHO 4WITH_DASIA 3SAN 3SHO 3SIGMA 3TAU 3THETA 3UPSILON
    4WITH_DASIA 6AND_OXIA 7PERISPOMENI 7VARIA 5DIALYTIKA 5MACRON 5OXIA 5TONOS 5VARIA 5VRACHY 3XI
    3YOT 3ZETA 2LUNATE_SIGMA_SYMBOL 2REVERSED_DOTTED_LUNATE_SIGMA_SYMBOL 3LUNATE_SIGMA_SYMBOL
    2THETA_SYMBOL 1DASIA 2AND_OXIA 3PERISPOMENI 3VARIA 1DIALYTIKA_AND_OXIA 3PERISPOMENI 3VARIA
    2TONOS 1DRACHMA_SIGN 1FIVE_OBOLS_SIGN 1FOUR_OBOLS_SIGN 1GRAMMA_SIGN 1INDICTION_SIGN
    1INSTRUMENTAL_NOTATION_SYMBOL-1 3SYMBOL-11 3SYMBOL-12 3SYMBOL-13 3SYMBOL-14 3SYMBOL-17
    3SYMBOL-18 3SYMBOL-19 3SYMBOL-2 3SYMBOL-23 3SYMBOL-24 3SYMBOL-25 3SYMBOL-26 3SYMBOL-27
    3SYMBOL-29 3SYMBOL-30 3SYMBOL-32 3SYMBOL-36 3SYMBOL-37 3SYMBOL-38 3SYMBOL-39 3SYMBOL-4
    3SYMBOL-40 3SYMBOL-42 3SYMBOL-43 3SYMBOL-45 3SYMBOL-47 3SYMBOL-48 3SYMBOL-49 3SYMBOL-5
    3SYMBOL-50 3SYMBOL-51 3SYMBOL-52 3SYMBOL-53 3SYMBOL-54 3SYMBOL-7 3SYMBOL-8 1KAI_SYMBOL
    1KAPPA_SYMBOL 1KORONIS 1KYATHOS_BASE_SIGN 1LETTER_ARCHAIC_KOPPA 2DIGAMMA 2KOPPA 2SAMPI
    2SMALL_CAPITAL_GAMMA 4LAMDA 4OMEGA 4PI 4PSI 4RHO 2STIGMA 2YOT 1LITRA_SIGN 1LOWER_NUMERAL_SIGN
    1LUNATE_EPSILON_SYMBOL 2SIGMA_SYMBOL 1METRETES_SIGN 1MUSICAL_LEIMMA 1NUMERAL_SIGN 1OBOL_SIGN
    1ONE_HALF_SIGN 4ALTERNATE_FORM 2QUARTER_SIGN 1OUNKIA_SIGN 1OXIA 1PERISPOMENI 1PHI_SYMBOL
    1PI_SYMBOL 1PROSGEGRAMMENI 1PSILI 2AND_OXIA 3PERISPOMENI 3VARIA 1QUESTION_MARK
    1REVERSED_LUNATE_EPSILON_SYMBOL 1RHO_SYMBOL 2WITH_STROKE_SYMBOL 1SINUSOID_SIGN
    1SMALL_DOTTED_LUNATE_SIGMA_SYMBOL 2LETTER_ALPHA 4WITH_DASIA 6AND_OXIA 8AND_YPOGEGRAMMENI
    7PERISPOMENI 8AND_YPOGEGRAMMENI 7VARIA 8AND_YPOGEGRAMMENI 7YPOGEGRAMMENI 5MACRON 5OXIA
    6AND_YPOGEGRAMMENI 5PERISPOMENI 6AND_YPOGEGRAMMENI 5PSILI 6AND_OXIA 8AND_YPOGEGRAMMENI
    7PERISPOMENI 8AND_YPOGEGRAMMENI 7VARIA 8AND_YPOGEGRAMMENI 7YPOGEGRAMMENI 5TONOS 5VARIA
    6AND_YPOGEGRAMMENI 5VRACHY 5YPOGEGRAMMENI 3ARCHAIC_KOPPA 4SAMPI 3BETA 3CHI 3DELTA 3DIGAMMA
    3EPSILON 4WITH_DASIA 6AND_OXIA 7VARIA 5OXIA 5PSILI 6AND_OXIA 7VARIA 5TONOS 5VARIA 3ETA
    4WITH_DASIA 6AND_OXIA 8AND_YPOGEGRAMMENI 7PERISPOMENI 8AND_YPOGEGRAMMENI 7VARIA
    8AND_YPOGEGRAMMENI 7YPOGEGRAMMENI 5OXIA 6AND_YPOGEGRAMMENI 5PERISPOMENI 6AND_YPOGEGRAMMENI
    5PSILI 6AND_OXIA 8AND_YPOGEGRAMMENI 7PERISPOMENI 8AND_YPOGEGRAMMENI 7VARIA 8AND_YPOGEGRAMMENI
    7YPOGEGRAMMENI 5TONOS 5VARIA 6AND_YPOGEGRAMMENI 5YPOGEGRAMMENI 3FINAL_SIGMA 3GAMMA 3HETA 3IOTA
    4WITH_DASIA 6AND_OXIA 7PERISPOMENI 7VARIA 5DIALYTIKA 6AND_OXIA 7PERISPOMENI 7TONOS 7VARIA
    5MACRON 5OXIA 5PERISPOMENI 5PSILI 6AND_OXIA 7PERISPOMENI 7VARIA 5TONOS 5VARIA 5VRACHY 3KAPPA
    3KOPPA 3LAMDA 3MU 3NU 3OMEGA 4WITH_DASIA 6AND_OXIA 8AND_YPOGEGRAMMENI 7PERISPOMENI
    8AND_YPOGEGRAMMENI 7VARIA 8AND_YPOGEGRAMMENI 7YPOGEGRAMMENI 5OXIA 6AND_YPOGEGRAMMENI
    5PERISPOMENI 6AND_YPOGEGRAMMENI 5PSILI 6AND_OXIA 8AND_YPOGEGRAMMENI 7PERISPOMENI
    8AND_YPOGEGRAMMENI 7VARIA 8AND_YPOGEGRAMMENI 7YPOGEGRAMMENI 5TONOS 5VARIA 6AND_YPOGEGRAMMENI
    5YPOGEGRAMMENI 3OMICRON 4WITH_DASIA 6AND_OXIA 7VARIA 5OXIA 5PSILI 6AND_OXIA 7VARIA 5TONOS 5VARIA
    3PAMPHYLIAN_DIGAMMA 3PHI 3PI 3PSI 3RHO 4WITH_DASIA 5PSILI 3SAMPI 3SAN 3SHO 3SIGMA 3STIGMA 3TAU
    3THETA 3UPSILON 4WITH_DASIA 6AND_OXIA 7PERISPOMENI 7VARIA 5DIALYTIKA 6AND_OXIA 7PERISPOMENI
    7TONOS 7VARIA 5MACRON 5OXIA 5PERISPOMENI 5PSILI 6AND_OXIA 7PERISPOMENI 7VARIA 5TONOS 5VARIA
    5VRACHY 3XI 3ZETA 2REVERSED_DOTTED_LUNATE_SIGMA_SYMBOL 3LUNATE_SIGMA_SYMBOL
    1SUBSCRIPT_SMALL_LETTER_BETA 4CHI 4GAMMA 4PHI 4RHO 1SYMBOL_TAU_RHO 1TALENT_SIGN 1THETA_SYMBOL
    1THREE_OBOLS_SIGN 2QUARTERS_SIGN 1TONOS 1TRYBLION_BASE_SIGN 1TWO_OBOLS_SIGN 2THIRDS_SIGN
    1UPSILON_WITH_ACUTE_AND_HOOK_SYMBOL 3DIAERESIS_AND_HOOK_SYMBOL 3HOOK_SYMBOL 1VARIA
    1VOCAL_NOTATION_SYMBOL-1 3SYMBOL-10 3SYMBOL-11 3SYMBOL-12 3SYMBOL-13 3SYMBOL-14 3SYMBOL-15
    3SYMBOL-16 3SYMBOL-17 3SYMBOL-18 3SYMBOL-19 3SYMBOL-2 3SYMBOL-20 3SYMBOL-21 3SYMBOL-22
    3SYMBOL-23 3SYMBOL-24 3SYMBOL-3 3SYMBOL-4 3SYMBOL-5 3SYMBOL-50 3SYMBOL-51 3SYMBOL-52 3SYMBOL-53
    3SYMBOL-54 3SYMBOL-6 3SYMBOL-7 3SYMBOL-8 3SYMBOL-9 1XESTES_SIGN 1YEAR_SIGN 1YPOGEGRAMMENI
    1ZERO_SIGN 0GREEN_APPLE 1BOOK 1HEART 1SALAD 0GRIMACING_FACE 0GRINNING_CAT_FACE_WITH_SMILING_EYES
    1FACE 2WITH_ONE_LARGE_AND_ONE_SMALL_EYE 3SMILING_EYES 3STAR_EYES 0GROUP_MARK 1SEPARATOR
    0GROWING_HEART 0GS 0GUARANI_SIGN 0GUARDSMAN 0GUIDE_DOG 0GUITAR 0GUJARATI_ABBREVIATION_SIGN
    1DIGIT_EIGHT 2FIVE 2FOUR 2NINE 2ONE 2SEVEN 2SIX 2THREE 2TWO 2ZERO 1LETTER_A 2AA 2AI 2AU 2BA 2BHA
    2CA 2CHA 2DA 2DDA 2DDHA 2DHA 2E 2GA 2GHA 2HA 2I 2II 2JA 2JHA 2KA 2KHA 2LA 2LLA 2MA 2NA 2NGA 2NNA
    2NYA 2O 2PA 2PHA 2RA 2SA 2SHA 2SSA 2TA 2THA 2TTA 2TTHA 2U 2UU 2VA 2VOCALIC_L 3LL 3R 3RR 2YA 2ZHA
    1OM 1RUPEE_SIGN 1SIGN_ANUSVARA 2AVAGRAHA 2CANDRABINDU 2CIRCLE_NUKTA_ABOVE 2MADDAH 2NUKTA 2SHADDA
    2SUKUN 2THREE-DOT_NUKTA_ABOVE 2TWO-CIRCLE_NUKTA_ABOVE 2VIRAMA 2VISARGA 1VOWEL_CANDRA_E 3O
    2SIGN_AA 3AI 3AU 3CANDRA_E 4O 3E 3I 3II 3O 3U 3UU 3VOCALIC_L 4LL 4R 4RR
    0GUNJALA_GONDI_DIGIT_EIGHT 3FIVE 3FOUR 3NINE 3ONE 3SEVEN 3SIX 3THREE 3TWO 3ZERO 2LETTER_A 3AA
    3AI 3AU 3BA 3BHA 3CA 3CHA 3DA 3DDA 3DDHA 3DHA 3EE 3GA 3GHA 3HA 3I 3II 3JA 3JHA 3KA 3KHA 3LA 3LLA
    3MA 3NA 3NGA 3OO 3PA 3PHA 3RA 3SA 3TA 3THA 3TTA 3TTHA 3U 3UU 3VA 3YA 2OM 2SIGN_ANUSVARA 3VISARGA
    2VIRAMA 2VOWEL_SIGN_AA 4AI 4AU 4EE 4I 4II 4OO 4U 4UU 0GURMUKHI_ABBREVIATION_SIGN 1ADDAK
    1DIGIT_EIGHT 2FIVE 2FOUR 2NINE 2ONE 2SEVEN 2SIX 2THREE 2TWO 2ZERO 1EK_ONKAR 1IRI 1LETTER_A 2AA
    2AI 2AU 2BA 2BHA 2CA 2CHA 2DA 2DDA 2DDHA 2DHA 2EE 2FA 2GA 2GHA 2GHHA 2HA 2I 2II 2JA 2JHA 2KA
    2KHA 2KHHA 2LA 2LLA 2MA 2NA 2NGA 2NNA 2NYA 2OO 2PA 2PHA 2RA 2RRA 2SA 2SHA 2TA 2THA 2TTA 2TTHA 2U
    2UU 2VA 2YA 2ZA 1SIGN_ADAK_BINDI 2BINDI 2NUKTA 2UDAAT 2VIRAMA 2VISARGA 2YAKASH 1TIPPI 1URA
    1VOWEL_SIGN_AA 3AI 3AU 3EE 3I 3II 3OO 3U 3UU
    "),
    ('H', "
    0HADES 0HAIR_SPACE 0HAIRCUT 0HALFWIDTH_BLACK_SQUARE 1DOWNWARDS_ARROW 1FORMS_LIGHT_VERTICAL
    1HANGUL_FILLER 2LETTER_A 3AE 3CHIEUCH 3CIEUC 3E 3EO 3EU 3HIEUH 3I 3IEUNG 3KHIEUKH 3KIYEOK
    3KIYEOK-SIOS 3MIEUM 3NIEUN 3NIEUN-CIEUC 3NIEUN-HIEUH 3O 3OE 3PHIEUPH 3PIEUP 3PIEUP-SIOS 3RIEUL
    3RIEUL-HIEUH 3RIEUL-KIYEOK 3RIEUL-MIEUM 3RIEUL-PHIEUPH 3RIEUL-PIEUP 3RIEUL-SIOS 3RIEUL-THIEUTH
    3SIOS 3SSANGCIEUC 3SSANGKIYEOK 3SSANGPIEUP 3SSANGSIOS 3SSANGTIKEUT 3THIEUTH 3TIKEUT 3U 3WA 3WAE
    3WE 3WEO 3WI 3YA 3YAE 3YE 3YEO 3YI 3YO 3YU 1IDEOGRAPHIC_COMMA 2FULL_STOP 1KATAKANA_LETTER_A 3E
    3HA 3HE 3HI 3HO 3HU 3I 3KA 3KE 3KI 3KO 3KU 3MA 3ME 3MI 3MO 3MU 3N 3NA 3NE 3NI 3NO 3NU 3O 3RA 3RE
    3RI 3RO 3RU 3SA 3SE 3SI 3SMALL_A 4E 4I 4O 4TU 4U 4YA 4YO 4YU 3SO 3SU 3TA 3TE 3TI 3TO 3TU 3U 3WA
    3WO 3YA 3YO 3YU 2MIDDLE_DOT 2SEMI-VOICED_SOUND_MARK 2VOICED_SOUND_MARK
    1KATAKANA-HIRAGANA_PROLONGED_SOUND_MARK 1LEFT_CORNER_BRACKET 1LEFTWARDS_ARROW
    1RIGHT_CORNER_BRACKET 1RIGHTWARDS_ARROW 1UPWARDS_ARROW 1WHITE_CIRCLE 0HAMBURGER 0HAMMER
    1AND_PICK 2SICKLE 2WRENCH 0HAMSA 0HAMSTER_FACE 0HAND_WITH_INDEX_AND_MIDDLE_FINGERS_CROSSED
    3FINGER_AND_THUMB_CROSSED 0HANDBAG 0HANDBALL 0HANDSHAKE 0HANGUL_CHOSEONG_CEONGCHIEUMCHIEUCH
    2CEONGCHIEUMCIEUC 2CEONGCHIEUMSIOS 2CEONGCHIEUMSSANGCIEUC 2CEONGCHIEUMSSANGSIOS 2CHIEUCH
    2CHIEUCH-HIEUH 2CHIEUCH-KHIEUKH 2CHITUEUMCHIEUCH 2CHITUEUMCIEUC 2CHITUEUMSIOS
    2CHITUEUMSSANGCIEUC 2CHITUEUMSSANGSIOS 2CIEUC 2CIEUC-IEUNG 2FILLER 2HIEUH 2HIEUH-SIOS 2IEUNG
    2IEUNG-CHIEUCH 2IEUNG-CIEUC 2IEUNG-HIEUH 2IEUNG-KIYEOK 2IEUNG-MIEUM 2IEUNG-PANSIOS
    2IEUNG-PHIEUPH 2IEUNG-PIEUP 2IEUNG-RIEUL 2IEUNG-SIOS 2IEUNG-THIEUTH 2IEUNG-TIKEUT 2KAPYEOUNMIEUM
    2KAPYEOUNPHIEUPH 2KAPYEOUNPIEUP 2KAPYEOUNRIEUL 2KAPYEOUNSSANGPIEUP 2KHIEUKH 2KIYEOK
    2KIYEOK-TIKEUT 2MIEUM 2MIEUM-KIYEOK 2MIEUM-PIEUP 2MIEUM-SIOS 2MIEUM-TIKEUT 2NIEUN 2NIEUN-CIEUC
    2NIEUN-HIEUH 2NIEUN-KIYEOK 2NIEUN-PIEUP 2NIEUN-SIOS 2NIEUN-TIKEUT 2PANSIOS 2PHIEUPH
    2PHIEUPH-HIEUH 2PHIEUPH-PIEUP 2PIEUP 2PIEUP-CHIEUCH 2PIEUP-CIEUC 2PIEUP-HIEUH 2PIEUP-KHIEUKH
    2PIEUP-KIYEOK 2PIEUP-NIEUN 2PIEUP-PHIEUPH 2PIEUP-SIOS 2PIEUP-SIOS-CIEUC 2PIEUP-SIOS-KIYEOK
    2PIEUP-SIOS-PIEUP 2PIEUP-SIOS-THIEUTH 2PIEUP-SIOS-TIKEUT 2PIEUP-SSANGSIOS 2PIEUP-THIEUTH
    2PIEUP-TIKEUT 2RIEUL 2RIEUL-CIEUC 2RIEUL-HIEUH 2RIEUL-KAPYEOUNPIEUP 2RIEUL-KHIEUKH 2RIEUL-KIYEOK
    2RIEUL-MIEUM 2RIEUL-NIEUN 2RIEUL-PIEUP 2RIEUL-SIOS 2RIEUL-SSANGKIYEOK 2RIEUL-SSANGPIEUP
    2RIEUL-SSANGTIKEUT 2RIEUL-TIKEUT 2SIOS 2SIOS-CHIEUCH 2SIOS-CIEUC 2SIOS-HIEUH 2SIOS-IEUNG
    2SIOS-KHIEUKH 2SIOS-KIYEOK 2SIOS-MIEUM 2SIOS-NIEUN 2SIOS-PHIEUPH 2SIOS-PIEUP 2SIOS-PIEUP-KIYEOK
    2SIOS-RIEUL 2SIOS-SSANGSIOS 2SIOS-THIEUTH 2SIOS-TIKEUT 2SSANGCIEUC 2SSANGCIEUC-HIEUH 2SSANGHIEUH
    2SSANGIEUNG 2SSANGKIYEOK 2SSANGNIEUN 2SSANGPIEUP 2SSANGRIEUL 2SSANGSIOS 2SSANGSIOS-PIEUP
    2SSANGTHIEUTH 2SSANGTIKEUT 2SSANGYEORINHIEUH 2THIEUTH 2TIKEUT 2TIKEUT-CIEUC 2TIKEUT-KIYEOK
    2TIKEUT-MIEUM 2TIKEUT-PIEUP 2TIKEUT-RIEUL 2TIKEUT-SIOS 2YEORINHIEUH 2YESIEUNG
    1DOUBLE_DOT_TONE_MARK 1FILLER 1JONGSEONG_CHIEUCH 2CIEUC 2CIEUC-PIEUP 2CIEUC-SSANGPIEUP 2HIEUH
    2HIEUH-MIEUM 2HIEUH-NIEUN 2HIEUH-PIEUP 2HIEUH-RIEUL 2IEUNG 2IEUNG-KHIEUKH 2IEUNG-KIYEOK
    2IEUNG-SSANGKIYEOK 2KAPYEOUNMIEUM 2KAPYEOUNPHIEUPH 2KAPYEOUNPIEUP 2KAPYEOUNRIEUL 2KHIEUKH
    2KIYEOK 2KIYEOK-CHIEUCH 2KIYEOK-HIEUH 2KIYEOK-KHIEUKH 2KIYEOK-NIEUN 2KIYEOK-PIEUP 2KIYEOK-RIEUL
    2KIYEOK-SIOS 2KIYEOK-SIOS-KIYEOK 2MIEUM 2MIEUM-CHIEUCH 2MIEUM-CIEUC 2MIEUM-HIEUH 2MIEUM-KIYEOK
    2MIEUM-NIEUN 2MIEUM-PANSIOS 2MIEUM-PIEUP 2MIEUM-PIEUP-SIOS 2MIEUM-RIEUL 2MIEUM-SIOS
    2MIEUM-SSANGNIEUN 2MIEUM-SSANGSIOS 2NIEUN 2NIEUN-CHIEUCH 2NIEUN-CIEUC 2NIEUN-HIEUH 2NIEUN-KIYEOK
    2NIEUN-PANSIOS 2NIEUN-RIEUL 2NIEUN-SIOS 2NIEUN-THIEUTH 2NIEUN-TIKEUT 2PANSIOS
    2PANSIOS-KAPYEOUNPIEUP 2PANSIOS-PIEUP 2PHIEUPH 2PHIEUPH-PIEUP 2PHIEUPH-SIOS 2PHIEUPH-THIEUTH
    2PIEUP 2PIEUP-CHIEUCH 2PIEUP-CIEUC 2PIEUP-HIEUH 2PIEUP-MIEUM 2PIEUP-PHIEUPH 2PIEUP-RIEUL
    2PIEUP-RIEUL-PHIEUPH 2PIEUP-SIOS 2PIEUP-SIOS-TIKEUT 2PIEUP-TIKEUT 2RIEUL 2RIEUL-HIEUH
    2RIEUL-KAPYEOUNPIEUP 2RIEUL-KHIEUKH 2RIEUL-KIYEOK 2RIEUL-KIYEOK-HIEUH 2RIEUL-KIYEOK-SIOS
    2RIEUL-MIEUM 2RIEUL-MIEUM-HIEUH 2RIEUL-MIEUM-KIYEOK 2RIEUL-MIEUM-SIOS 2RIEUL-NIEUN
    2RIEUL-PANSIOS 2RIEUL-PHIEUPH 2RIEUL-PIEUP 2RIEUL-PIEUP-HIEUH 2RIEUL-PIEUP-PHIEUPH
    2RIEUL-PIEUP-SIOS 2RIEUL-PIEUP-TIKEUT 2RIEUL-SIOS 2RIEUL-SSANGKIYEOK 2RIEUL-SSANGSIOS
    2RIEUL-THIEUTH 2RIEUL-TIKEUT 2RIEUL-TIKEUT-HIEUH 2RIEUL-YEORINHIEUH 2RIEUL-YEORINHIEUH-HIEUH
    2RIEUL-YESIEUNG 2SIOS 2SIOS-CHIEUCH 2SIOS-CIEUC 2SIOS-HIEUH 2SIOS-KAPYEOUNPIEUP 2SIOS-KIYEOK
    2SIOS-MIEUM 2SIOS-PANSIOS 2SIOS-PIEUP 2SIOS-RIEUL 2SIOS-THIEUTH 2SIOS-TIKEUT 2SSANGCIEUC
    2SSANGIEUNG 2SSANGKIYEOK 2SSANGMIEUM 2SSANGNIEUN 2SSANGPIEUP 2SSANGRIEUL 2SSANGRIEUL-KHIEUKH
    2SSANGSIOS 2SSANGSIOS-KIYEOK 2SSANGSIOS-TIKEUT 2SSANGTIKEUT 2SSANGTIKEUT-PIEUP 2SSANGYESIEUNG
    2THIEUTH 2TIKEUT 2TIKEUT-CHIEUCH 2TIKEUT-CIEUC 2TIKEUT-KIYEOK 2TIKEUT-PIEUP 2TIKEUT-RIEUL
    2TIKEUT-SIOS 2TIKEUT-SIOS-KIYEOK 2TIKEUT-THIEUTH 2YEORINHIEUH 2YESIEUNG 2YESIEUNG-HIEUH
    2YESIEUNG-KHIEUKH 2YESIEUNG-KIYEOK 2YESIEUNG-MIEUM 2YESIEUNG-PANSIOS 2YESIEUNG-SIOS
    2YESIEUNG-SSANGKIYEOK 1JUNGSEONG_A 2A-EU 2A-O 2A-U 2AE 2ARAEA 2ARAEA-A 2ARAEA-E 2ARAEA-EO
    2ARAEA-I 2ARAEA-U 2E 2EO 2EO-EU 2EO-O 2EO-U 2EU 2EU-A 2EU-E 2EU-EO 2EU-EU 2EU-O 2EU-U 2FILLER 2I
    2I-A 2I-ARAEA 2I-EU 2I-I 2I-O 2I-O-I 2I-U 2I-YA 2I-YA-O 2I-YAE 2I-YE 2I-YEO 2I-YO 2I-YU 2O 2O-E
    2O-EO 2O-O 2O-O-I 2O-U 2O-YA 2O-YAE 2O-YE 2O-YEO 2OE 2SSANGARAEA 2U 2U-A 2U-AE 2U-EO-EU 2U-I-I
    2U-U 2U-YE 2U-YEO 2WA 2WAE 2WE 2WEO 2WI 2YA 2YA-O 2YA-U 2YA-YO 2YAE 2YE 2YEO 2YEO-O 2YEO-U
    2YEO-YA 2YI 2YI-U 2YO 2YO-A 2YO-AE 2YO-EO 2YO-I 2YO-O 2YO-YA 2YO-YAE 2YO-YEO 2YU 2YU-A 2YU-AE
    2YU-E 2YU-EO 2YU-I 2YU-O 2YU-U 2YU-YE 2YU-YEO 1LETTER_A 2AE 2ARAEA 2ARAEAE 2CHIEUCH 2CIEUC 2E
    2EO 2EU 2HIEUH 2I 2IEUNG 2KAPYEOUNMIEUM 2KAPYEOUNPHIEUPH 2KAPYEOUNPIEUP 2KAPYEOUNSSANGPIEUP
    2KHIEUKH 2KIYEOK 2KIYEOK-SIOS 2MIEUM 2MIEUM-PANSIOS 2MIEUM-PIEUP 2MIEUM-SIOS 2NIEUN 2NIEUN-CIEUC
    2NIEUN-HIEUH 2NIEUN-PANSIOS 2NIEUN-SIOS 2NIEUN-TIKEUT 2O 2OE 2PANSIOS 2PHIEUPH 2PIEUP
    2PIEUP-CIEUC 2PIEUP-KIYEOK 2PIEUP-SIOS 2PIEUP-SIOS-KIYEOK 2PIEUP-SIOS-TIKEUT 2PIEUP-THIEUTH
    2PIEUP-TIKEUT 2RIEUL 2RIEUL-HIEUH 2RIEUL-KIYEOK 2RIEUL-KIYEOK-SIOS 2RIEUL-MIEUM 2RIEUL-PANSIOS
    2RIEUL-PHIEUPH 2RIEUL-PIEUP 2RIEUL-PIEUP-SIOS 2RIEUL-SIOS 2RIEUL-THIEUTH 2RIEUL-TIKEUT
    2RIEUL-YEORINHIEUH 2SIOS 2SIOS-CIEUC 2SIOS-KIYEOK 2SIOS-NIEUN 2SIOS-PIEUP 2SIOS-TIKEUT
    2SSANGCIEUC 2SSANGHIEUH 2SSANGIEUNG 2SSANGKIYEOK 2SSANGNIEUN 2SSANGPIEUP 2SSANGSIOS 2SSANGTIKEUT
    2THIEUTH 2TIKEUT 2U 2WA 2WAE 2WE 2WEO 2WI 2YA 2YAE 2YE 2YEO 2YEORINHIEUH 2YESIEUNG
    2YESIEUNG-PANSIOS 2YESIEUNG-SIOS 2YI 2YO 2YO-I 2YO-YA 2YO-YAE 2YU 2YU-I 2YU-YE 2YU-YEO
    1SINGLE_DOT_TONE_MARK 0HANGZHOU_NUMERAL_EIGHT 2FIVE 2FOUR 2NINE 2ONE 2SEVEN 2SIX 2TEN 2THIRTY
    2THREE 2TWENTY 2TWO 0HANIFI_ROHINGYA_DIGIT_EIGHT 3FIVE 3FOUR 3NINE 3ONE 3SEVEN 3SIX 3THREE 3TWO
    3ZERO 2LETTER_A 3BA 3CA 3DA 3DDA 3FA 3GA 3HA 3JA 3KA 3KHA 3KINNA_WA 4YA 3LA 3MA 3NA 3NGA 3NYA
    3PA 3RA 3RRA 3SA 3SHA 3TA 3TTA 3VA 3WA 3YA 3ZA 2MARK_NA_KHONNA 3SAKIN 2SIGN_HARBAHAY 3TAHALA
    3TANA 3TASSI 2VOWEL_A 3E 3I 3O 3U 0HANUNOO_LETTER_A 2BA 2DA 2GA 2HA 2I 2KA 2LA 2MA 2NA 2NGA 2PA
    2RA 2SA 2TA 2U 2WA 2YA 1SIGN_PAMUDPOD 1VOWEL_SIGN_I 3U 0HAPPY_PERSON_RAISING_ONE_HAND 0HARD_DISK
    0HATCHING_CHICK 0HATRAN_LETTER_ALEPH 2AYN 2BETH 2DALETH-RESH 2GIMEL 2HE 2HETH 2KAPH 2LAMEDH 2MEM
    2NUN 2PE 2QOPH 2SADHE 2SAMEKH 2SHIN 2TAW 2TETH 2WAW 2YODH 2ZAYN 1NUMBER_FIVE 2ONE 3HUNDRED 2TEN
    2TWENTY 0HEADPHONE 0HEADSTONE 1GRAVEYARD_SYMBOL 0HEAR-NO-EVIL_MONKEY 0HEART_DECORATION 1HANDS
    1WITH_ARROW 2RIBBON 2TIP_ON_THE_LEFT 0HEAVY_AMPERSAND_ORNAMENT 1ARROW_SHAFT_WIDTH_ONE 5HALF
    5THIRD 4TWO_THIRDS 1ASTERISK 1BALLOT_X 1BLACK_CURVED_DOWNWARDS_AND_RIGHTWARDS_ARROW
    3UPWARDS_AND_RIGHTWARDS_ARROW 2HEART 1BLACK-FEATHERED_NORTH_EAST_ARROW 2RIGHTWARDS_ARROW
    2SOUTH_EAST_ARROW 1CHECK_MARK 1CHEVRON_SNOWFLAKE 1CIRCLE 2WITH_CIRCLE_INSIDE
    3STROKE_AND_TWO_DOTS_ABOVE 1CIRCLED_SALTIRE 1CONCAVE-POINTED_BLACK_RIGHTWARDS_ARROW
    1DASHED_TRIANGLE-HEADED_RIGHTWARDS_ARROW 1DIVISION_SIGN 1DOLLAR_SIGN
    1DOUBLE_COMMA_QUOTATION_MARK_ORNAMENT 2TURNED_COMMA_QUOTATION_MARK_ORNAMENT
    1DOWNWARDS_ARROW_WITH_EQUILATERAL_ARROWHEAD 4LARGE_EQUILATERAL_ARROWHEAD
    1EIGHT_POINTED_BLACK_STAR 3PINWHEEL_STAR 3RECTILINEAR_BLACK_STAR 2SPOKED_ASTERISK
    2TEARDROP-SPOKED_PROPELLER_ASTERISK 1EQUALS_SIGN 1EXCLAMATION_MARK_ORNAMENT 3SYMBOL
    1FIVE_POINTED_BLACK_STAR 2SPOKED_ASTERISK 1FOUR_BALLOON-SPOKED_ASTERISK 1GREEK_CROSS
    1HEART_EXCLAMATION_MARK_ORNAMENT 1HORIZONTAL_FILL 1INTERROBANG_ORNAMENT 1LARGE_CIRCLE
    1LATIN_CROSS 1LEFT-POINTING_ANGLE_BRACKET_ORNAMENT 3QUOTATION_MARK_ORNAMENT
    1LEFTWARDS_ARROW_WITH_EQUILATERAL_ARROWHEAD 4LARGE_EQUILATERAL_ARROWHEAD
    1LIGATURE_OPEN_ET_ORNAMENT 1LOW_DOUBLE_COMMA_QUOTATION_MARK_ORNAMENT
    2SINGLE_COMMA_QUOTATION_MARK_ORNAMENT 1LOWER_RIGHT-SHADOWED_WHITE_RIGHTWARDS_ARROW 1MINUS_SIGN
    1MULTIPLICATION_X 1NORTH_EAST_ARROW 3POINTING_BUD 4VINE_LEAF 2WEST_POINTING_BUD 4VINE_LEAF
    1OPEN_CENTRE_CROSS 1OUTLINED_BLACK_STAR 1OVAL_WITH_OVAL_INSIDE 1PLUS_SIGN
    1RIGHT-POINTING_ANGLE_BRACKET_ORNAMENT 3QUOTATION_MARK_ORNAMENT 1RIGHTWARDS_ARROW
    3WITH_EQUILATERAL_ARROWHEAD 4LARGE_EQUILATERAL_ARROWHEAD 1ROUND-TIPPED_RIGHTWARDS_ARROW 1SALTIRE
    1SANS-SERIF_INTERROBANG_ORNAMENT 1SCRIPT_LIGATURE_ET_ORNAMENT
    1SINGLE_COMMA_QUOTATION_MARK_ORNAMENT 2TURNED_COMMA_QUOTATION_MARK_ORNAMENT
    1SIX_POINTED_BLACK_STAR 2SPOKED_ASTERISK 1SOUTH_EAST_ARROW 3POINTING_BUD 4VINE_LEAF
    2WEST_POINTING_BUD 4VINE_LEAF 1SPARKLE 1TEARDROP-SHANKED_RIGHTWARDS_ARROW
    1TEARDROP-SPOKED_ASTERISK 2PINWHEEL_ASTERISK 1TRIANGLE-HEADED_RIGHTWARDS_ARROW
    1TWELVE_POINTED_BLACK_STAR 3PINWHEEL_STAR 1UPPER_RIGHT-SHADOWED_WHITE_RIGHTWARDS_ARROW
    1UPWARDS_ARROW_WITH_EQUILATERAL_ARROWHEAD 4LARGE_EQUILATERAL_ARROWHEAD 1VERTICAL_BAR
    1WEDGE-TAILED_RIGHTWARDS_ARROW 1WHITE_CIRCLE 2DOWN-POINTING_TRIANGLE 2SQUARE
    1WIDE-HEADED_RIGHTWARDS_ARROW 0HEBREW_ACCENT_ATNAH_HAFUKH 2DARGA 2DEHI 2ETNAHTA 2GERESH 3MUQDAM
    2GERSHAYIM 2ILUY 2MAHAPAKH 2MERKHA 3KEFULA 2MUNAH 2OLE 2PASHTA 2PAZER 2QADMA 2QARNEY_PARA 2REVIA
    2SEGOL 2SHALSHELET 2TELISHA_GEDOLA 3QETANA 2TEVIR 2TIPEHA 2YERAH_BEN_YOMO 2YETIV 2ZAQEF_GADOL
    3QATAN 2ZARQA 2ZINOR 1LETTER_ALEF 3WITH_MAPIQ 4PATAH 4QAMATS 2ALTERNATIVE_AYIN 3PLUS_SIGN 2AYIN
    2BET 3WITH_DAGESH 4RAFE 2DALET 3WITH_DAGESH 2FINAL_KAF 4WITH_DAGESH 3MEM 3NUN 3PE 4WITH_DAGESH
    3TSADI 2GIMEL 3WITH_DAGESH 2HE 3WITH_MAPIQ 2HET 2KAF 3WITH_DAGESH 4RAFE 2LAMED 3WITH_DAGESH 2MEM
    3WITH_DAGESH 2NUN 3WITH_DAGESH 2PE 3WITH_DAGESH 4RAFE 2QOF 3WITH_DAGESH 2RESH 3WITH_DAGESH
    2SAMEKH 3WITH_DAGESH 2SHIN 3WITH_DAGESH 5AND_SHIN_DOT 6SIN_DOT 4SHIN_DOT 4SIN_DOT 2TAV
    3WITH_DAGESH 2TET 3WITH_DAGESH 2TSADI 3WITH_DAGESH 2VAV 3WITH_DAGESH 4HOLAM 2WIDE_ALEF 3DALET
    3FINAL_MEM 3HE 3KAF 3LAMED 3RESH 3TAV 2YOD 3WITH_DAGESH 4HIRIQ 2ZAYIN 3WITH_DAGESH
    1LIGATURE_ALEF_LAMED 2YIDDISH_DOUBLE_VAV 4YOD 3VAV_YOD 3YOD_YOD_PATAH 1MARK_LOWER_DOT
    2MASORA_CIRCLE 2UPPER_DOT 1POINT_DAGESH_OR_MAPIQ 2HATAF_PATAH 3QAMATS 3SEGOL 2HIRIQ 2HOLAM
    3HASER_FOR_VAV 2JUDEO-SPANISH_VARIKA 2METEG 2PATAH 2QAMATS 3QATAN 2QUBUTS 2RAFE 2SEGOL 2SHEVA
    2SHIN_DOT 2SIN_DOT 2TSERE 1PUNCTUATION_GERESH 2GERSHAYIM 2MAQAF 2NUN_HAFUKHA 2PASEQ 2SOF_PASUQ
    1YOD_TRIANGLE 0HEDGEHOG 0HELICOPTER 0HELLSCHREIBER_PAUSE_SYMBOL 0HELM_SYMBOL
    0HELMET_WITH_WHITE_CROSS 0HENTAIGANA_LETTER_A-1 2A-2 2A-3 2A-WO 2E-1 2E-2 2E-3 2E-4 2E-5 2E-6
    2HA-1 2HA-10 2HA-11 2HA-2 2HA-3 2HA-4 2HA-5 2HA-6 2HA-7 2HA-8 2HA-9 2HE-1 2HE-2 2HE-3 2HE-4
    2HE-5 2HE-6 2HE-7 2HI-1 2HI-2 2HI-3 2HI-4 2HI-5 2HI-6 2HI-7 2HO-1 2HO-2 2HO-3 2HO-4 2HO-5 2HO-6
    2HO-7 2HO-8 2HU-1 2HU-2 2HU-3 2I-1 2I-2 2I-3 2I-4 2KA-1 2KA-10 2KA-11 2KA-2 2KA-3 2KA-4 2KA-5
    2KA-6 2KA-7 2KA-8 2KA-9 2KA-KE 2KE-1 2KE-2 2KE-3 2KE-4 2KE-5 2KE-6 2KI-1 2KI-2 2KI-3 2KI-4 2KI-5
    2KI-6 2KI-7 2KI-8 2KO-1 2KO-2 2KO-3 2KO-KI 2KU-1 2KU-2 2KU-3 2KU-4 2KU-5 2KU-6 2KU-7 2MA-1 2MA-2
    2MA-3 2MA-4 2MA-5 2MA-6 2MA-7 2ME-1 2ME-2 2ME-MA 2MI-1 2MI-2 2MI-3 2MI-4 2MI-5 2MI-6 2MI-7 2MO-1
    2MO-2 2MO-3 2MO-4 2MO-5 2MO-6 2MU-1 2MU-2 2MU-3 2MU-4 2N-MU-MO-1 2N-MU-MO-2 2NA-1 2NA-2 2NA-3
    2NA-4 2NA-5 2NA-6 2NA-7 2NA-8 2NA-9 2NE-1 2NE-2 2NE-3 2NE-4 2NE-5 2NE-6 2NE-KO 2NI-1 2NI-2 2NI-3
    2NI-4 2NI-5 2NI-6 2NI-7 2NI-TE 2NO-1 2NO-2 2NO-3 2NO-4 2NO-5 2NU-1 2NU-2 2NU-3 2O-1 2O-2 2O-3
    2RA-1 2RA-2 2RA-3 2RA-4 2RE-1 2RE-2 2RE-3 2RE-4 2RI-1 2RI-2 2RI-3 2RI-4 2RI-5 2RI-6 2RI-7 2RO-1
    2RO-2 2RO-3 2RO-4 2RO-5 2RO-6 2RU-1 2RU-2 2RU-3 2RU-4 2RU-5 2RU-6 2SA-1 2SA-2 2SA-3 2SA-4 2SA-5
    2SA-6 2SA-7 2SA-8 2SE-1 2SE-2 2SE-3 2SE-4 2SE-5 2SI-1 2SI-2 2SI-3 2SI-4 2SI-5 2SI-6 2SO-1 2SO-2
    2SO-3 2SO-4 2SO-5 2SO-6 2SO-7 2SU-1 2SU-2 2SU-3 2SU-4 2SU-5 2SU-6 2SU-7 2SU-8 2TA-1 2TA-2 2TA-3
    2TA-4 2TE-1 2TE-2 2TE-3 2TE-4 2TE-5 2TE-6 2TE-7 2TE-8 2TE-9 2TI-1 2TI-2 2TI-3 2TI-4 2TI-5 2TI-6
    2TI-7 2TO-1 2TO-2 2TO-3 2TO-4 2TO-5 2TO-6 2TO-RA 2TU-1 2TU-2 2TU-3 2TU-4 2TU-TO 2U-1 2U-2 2U-3
    2U-4 2U-5 2WA-1 2WA-2 2WA-3 2WA-4 2WA-5 2WE-1 2WE-2 2WE-3 2WE-4 2WI-1 2WI-2 2WI-3 2WI-4 2WI-5
    2WO-1 2WO-2 2WO-3 2WO-4 2WO-5 2WO-6 2WO-7 2YA-1 2YA-2 2YA-3 2YA-4 2YA-5 2YA-YO 2YO-1 2YO-2 2YO-3
    2YO-4 2YO-5 2YO-6 2YU-1 2YU-2 2YU-3 2YU-4 0HERB 0HERMITIAN_CONJUGATE_MATRIX
    0HEXAGRAM_FOR_ABUNDANCE 2AFTER_COMPLETION 2APPROACH 2BEFORE_COMPLETION 2BITING_THROUGH
    2BREAKTHROUGH 2COMING_TO_MEET 2CONFLICT 2CONTEMPLATION 2DARKENING_OF_THE_LIGHT 2DECREASE
    2DELIVERANCE 2DEVELOPMENT 2DIFFICULTY_AT_THE_BEGINNING 2DISPERSION 2DURATION 2ENTHUSIASM
    2FELLOWSHIP 2FOLLOWING 2GATHERING_TOGETHER 2GRACE 2GREAT_POSSESSION 3POWER 3PREPONDERANCE
    3TAMING 2HOLDING_TOGETHER 2INCREASE 2INFLUENCE 2INNER_TRUTH 2INNOCENCE 2LIMITATION 2MODESTY
    2MOUTH_CORNERS 2OBSTRUCTION 2OPPOSITION 2OPPRESSION 2PEACE 2PROGRESS 2PUSHING_UPWARD 2RETREAT
    2RETURN 2REVOLUTION 2SMALL_PREPONDERANCE 3TAMING 2SPLITTING_APART 2STANDSTILL 2THE_ABYSMAL_WATER
    3ARMY 3AROUSING_THUNDER 3CAULDRON 3CLINGING_FIRE 3CREATIVE_HEAVEN 3FAMILY 3GENTLE_WIND
    3JOYOUS_LAKE 3KEEPING_STILL_MOUNTAIN 3MARRYING_MAIDEN 3RECEPTIVE_EARTH 3WANDERER 3WELL 2TREADING
    2WAITING 2WORK_ON_THE_DECAYED 2YOUTHFUL_FOLLY 0HIBISCUS 0HIGH_BRIGHTNESS_SYMBOL 1OCTET_PRESET
    1VOLTAGE_SIGN 0HIGH-HEELED_SHOE 0HIGH-SPEED_TRAIN 2WITH_BULLET_NOSE 0HIKING_BOOT 0HINDU_TEMPLE
    0HIPPOPOTAMUS 0HIRAGANA_DIGRAPH_YORI 1ITERATION_MARK 1LETTER_A 2ARCHAIC_WU 3YE 2BA 2BE 2BI 2BO
    2BU 2DA 2DE 2DI 2DO 2DU 2E 2GA 2GE 2GI 2GO 2GU 2HA 2HE 2HI 2HO 2HU 2I 2KA 2KE 2KI 2KO 2KU 2MA
    2ME 2MI 2MO 2MU 2N 2NA 2NE 2NI 2NO 2NU 2O 2PA 2PE 2PI 2PO 2PU 2RA 2RE 2RI 2RO 2RU 2SA 2SE 2SI
    2SMALL_A 3E 3I 3KA 3KE 3O 3TU 3U 3WA 3WE 3WI 3WO 3YA 3YO 3YU 2SO 2SU 2TA 2TE 2TI 2TO 2TU 2U 2VU
    2WA 2WE 2WI 2WO 2YA 2YO 2YU 2ZA 2ZE 2ZI 2ZO 2ZU 1VOICED_ITERATION_MARK 0HISTORIC_SITE 0HOCHO
    0HOLE 0HOLLOW_QUILT_SQUARE_ORNAMENT 4IN_BLACK_SQUARE 0HOMOTHETIC 0HONEY_POT 0HONEYBEE 0HOOK 0HOP
    0HORIZONTAL_BAR 1BLACK_HEXAGON 2OCTAGON 1ELLIPSIS 1LINE_EXTENSION 1MALE_WITH_STROKE_SIGN
    1ONE_EIGHTH_BLOCK-1358 3BLOCK-2 3BLOCK-3 3BLOCK-4 3BLOCK-5 3BLOCK-6 3BLOCK-7 1SCAN_LINE-1
    2LINE-3 2LINE-7 2LINE-9 1TAB_KEY 1TABULATION 2SET 2WITH_JUSTIFICATION 1TRAFFIC_LIGHT 0HORSE
    1FACE 1RACING 0HOSPITAL 0HOT_BEVERAGE 1DOG 1PEPPER 1SPRINGS 0HOTEL 0HOURGLASS 1WITH_FLOWING_SAND
    0HOUSE 1BUILDING 1BUILDINGS 1WITH_GARDEN 0HRYVNIA_SIGN 0HT 0HTJ 0HTS 0HUGGING_FACE
    0HUNDRED_POINTS_SYMBOL 0HUSHED_FACE 0HUT 0HYGIEA 0HYPHEN 1BULLET 1WITH_DIAERESIS 0HYPHEN-MINUS
    0HYPHENATION_POINT 0HYPODIASTOLE 0HYSTERESIS_SYMBOL
    "),
    ('I', "
    0I_LOVE_YOU_HAND_SIGN 0ICE_CREAM 1CUBE 1HOCKEY_STICK_AND_PUCK 1SKATE 0IDENTICAL_TO
    2AND_SLANTED_PARALLEL 1WITH_DOT_ABOVE 0IDENTIFICATION_CARD 0IDEOGRAPHIC_ANNOTATION_BOTTOM_MARK
    2EARTH_MARK 2FIRST_MARK 2FOUR_MARK 2FOURTH_MARK 2HEAVEN_MARK 2LINKING_MARK 2MAN_MARK
    2MIDDLE_MARK 2ONE_MARK 2REVERSE_MARK 2SECOND_MARK 2THIRD_MARK 2THREE_MARK 2TOP_MARK 2TWO_MARK
    1CLOSING_MARK 1COMMA 1DEPARTING_TONE_MARK 1DESCRIPTION_CHARACTER_ABOVE_TO_BELOW
    5MIDDLE_AND_BELOW 3FULL_SURROUND 3LEFT_TO_MIDDLE_AND_RIGHT 5RIGHT 3OVERLAID 3SURROUND_FROM_ABOVE
    5BELOW 5LEFT 5LOWER_LEFT 5UPPER_LEFT 6RIGHT 1ENTERING_TONE_MARK 1FULL_STOP 1HALF_FILL_SPACE
    1ITERATION_MARK 1LEVEL_TONE_MARK 1NUMBER_ZERO 1RISING_TONE_MARK 1SPACE 1TALLY_MARK_FIVE 3FOUR
    3ONE 3THREE 3TWO 1TELEGRAPH_LINE_FEED_SEPARATOR_SYMBOL 2SYMBOL_FOR_APRIL 4AUGUST 4DAY_EIGHT
    5EIGHTEEN 5ELEVEN 5FIFTEEN 5FIVE 5FOUR 5FOURTEEN 5NINE 5NINETEEN 5ONE 5SEVEN 5SEVENTEEN 5SIX
    5SIXTEEN 5TEN 5THIRTEEN 5THIRTY 5THIRTY-ONE 5THREE 5TWELVE 5TWENTY 5TWENTY-EIGHT 5TWENTY-FIVE
    5TWENTY-FOUR 5TWENTY-NINE 5TWENTY-ONE 5TWENTY-SEVEN 5TWENTY-SIX 5TWENTY-THREE 5TWENTY-TWO 5TWO
    4DECEMBER 4FEBRUARY 4HOUR_EIGHT 5EIGHTEEN 5ELEVEN 5FIFTEEN 5FIVE 5FOUR 5FOURTEEN 5NINE 5NINETEEN
    5ONE 5SEVEN 5SEVENTEEN 5SIX 5SIXTEEN 5TEN 5THIRTEEN 5THREE 5TWELVE 5TWENTY 5TWENTY-FOUR
    5TWENTY-ONE 5TWENTY-THREE 5TWENTY-TWO 5TWO 5ZERO 4JANUARY 4JULY 4JUNE 4MARCH 4MAY 4NOVEMBER
    4OCTOBER 4SEPTEMBER 1VARIATION_INDICATOR 0IMAGE_OF 2OR_APPROXIMATELY_EQUAL_TO 0IMP
    0IMPERIAL_ARAMAIC_LETTER_ALEPH 3AYIN 3BETH 3DALETH 3GIMEL 3HE 3HETH 3KAPH 3LAMEDH 3MEM 3NUN 3PE
    3QOPH 3RESH 3SADHE 3SAMEKH 3SHIN 3TAW 3TETH 3WAW 3YODH 3ZAYIN 2NUMBER_ONE 4HUNDRED 4THOUSAND
    3TEN 4THOUSAND 3THREE 3TWENTY 3TWO 2SECTION_SIGN 0INBOX_TRAY 0INCOMING_ENVELOPE
    0INCOMPLETE_INFINITY 0INCREASE_FONT_SIZE_SYMBOL 0INCREASES_AS 0INCREMENT 0IND 0INDEX
    1POINTING_AT_THE_VIEWER 0INDIAN_RUPEE_SIGN 0INDIC_SIYAQ_ALTERNATE_LAKH_MARK 2FRACTION_ONE_HALF
    4QUARTER 3THREE_QUARTERS 2LAKH_MARK 2NUMBER_ALTERNATE_ONE 4TEN_THOUSAND 4TWO 3EIGHT 4HUNDRED
    4THOUSAND 3EIGHTY 4THOUSAND 3FIFTY 4THOUSAND 3FIVE 4HUNDRED 4THOUSAND 3FORTY 4THOUSAND 3FOUR
    4HUNDRED 4THOUSAND 3KAROR 3KARORAN 3LAKH 3LAKHAN 3NINE 4HUNDRED 4THOUSAND 3NINETY 4THOUSAND 3ONE
    4HUNDRED 4THOUSAND 3PREFIXED_EIGHT 4FIVE 4FOUR 4NINE 4ONE 4SEVEN 4SIX 4THREE 4TWO 3SEVEN
    4HUNDRED 4THOUSAND 3SEVENTY 4THOUSAND 3SIX 4HUNDRED 4THOUSAND 3SIXTY 4THOUSAND 3TEN 4THOUSAND
    3THIRTY 4THOUSAND 3THREE 4HUNDRED 4THOUSAND 3TWENTY 4THOUSAND 3TWO 4HUNDRED 4THOUSAND
    2PLACEHOLDER 2RUPEE_MARK 0INFINITY 1NEGATED_WITH_VERTICAL_BAR 0INFORMATION_DESK_PERSON
    1SEPARATOR_FOUR 2ONE 2THREE 2TWO 1SOURCE 0INHIBIT_ARABIC_FORM_SHAPING 1SYMMETRIC_SWAPPING
    0INPUT_SYMBOL_FOR_LATIN_CAPITAL_LETTERS 4LETTERS 4SMALL_LETTERS 3NUMBERS 3SYMBOLS
    0INSCRIPTIONAL_PAHLAVI_LETTER_ALEPH 3BETH 3DALETH 3GIMEL 3HE 3HETH 3KAPH 3LAMEDH 3MEM-QOPH 3NUN
    3PE 3SADHE 3SAMEKH 3SHIN 3TAW 3TETH 3WAW-AYIN-RESH 3YODH 3ZAYIN 2NUMBER_FOUR 3ONE 4HUNDRED
    4THOUSAND 3TEN 3THREE 3TWENTY 3TWO 1PARTHIAN_LETTER_ALEPH 3AYIN 3BETH 3DALETH 3GIMEL 3HE 3HETH
    3KAPH 3LAMEDH 3MEM 3NUN 3PE 3QOPH 3RESH 3SADHE 3SAMEKH 3SHIN 3TAW 3TETH 3WAW 3YODH 3ZAYIN
    2NUMBER_FOUR 3ONE 4HUNDRED 4THOUSAND 3TEN 3THREE 3TWENTY 3TWO 0INSERTION_SYMBOL 0INTEGRAL
    1AROUND_A_POINT_OPERATOR 1AVERAGE_WITH_SLASH 1EXTENSION 1WITH_DOUBLE_STROKE 2INTERSECTION
    2LEFTWARDS_ARROW_WITH_HOOK 2OVERBAR 2TIMES_SIGN 2UNDERBAR 2UNION 0INTERCALATE 0INTERIOR_PRODUCT
    0INTERLINEAR_ANNOTATION_ANCHOR 2SEPARATOR 2TERMINATOR 0INTERLOCKED_FEMALE_AND_MALE_SIGN
    0INTERROBANG 0INTERSECTION 1ABOVE_BAR_ABOVE_UNION 2UNION 1BESIDE_AND_JOINED_WITH_INTERSECTION
    1WITH_DOT 2LOGICAL_AND 2OVERBAR 0INVERSE_BULLET 1CHECK_MARK 1CHECKER_BOARD_FILL
    1DOWNWARDS_ARROW_WITH_TIP_LEFTWARDS 1MEDIUM_SHADE 1WHITE_CIRCLE 0INVERTED_EXCLAMATION_MARK
    1INTERROBANG 1LAZY_S 1LOW_KAVYKA 3WITH_KAVYKA_ABOVE 1OHM_SIGN 1PENTAGRAM 1QUESTION_MARK
    1UNDERTIE 0INVISIBLE_PLUS 1SEPARATOR 1TIMES 0IZAKAYA_LANTERN
    "),
    ('J', "
    0JACK-O-LANTERN 0JAPANESE_BANK_SYMBOL 1CASTLE 1DOLLS 1GOBLIN 1INDUSTRIAL_STANDARD_SYMBOL 1OGRE
    1POST_OFFICE 1SYMBOL_FOR_BEGINNER 0JAR 0JAVANESE_CONSONANT_SIGN_CAKRA 3KERET 3PENGKAL
    1DIGIT_EIGHT 2FIVE 2FOUR 2NINE 2ONE 2SEVEN 2SIX 2THREE 2TWO 2ZERO 1LEFT_RERENGGAN 1LETTER_A 2AI
    2BA 3MURDA 2CA 3MURDA 2DA 3MAHAPRANA 2DDA 3MAHAPRANA 2E 2GA 3MURDA 2HA 2I 3KAWI 2II 2JA
    3MAHAPRANA 2KA 3MURDA 3SASAK 2LA 2MA 2NA 3MURDA 2NGA 3LELET 4RASWADI 2NYA 3MURDA 2O 2PA 3CEREK
    3MURDA 2RA 3AGUNG 2SA 3MAHAPRANA 3MURDA 2TA 3MURDA 2TTA 3MAHAPRANA 2U 2WA 2YA 1PADA_ADEG 3ADEG
    2ANDAP 2ISEN-ISEN 2LINGSA 2LUHUR 2LUNGSI 2MADYA 2PANGKAT 2PISELEH 2TIRTA_TUMETES 2WINDU 1PANGKON
    1PANGRANGKEP 1RIGHT_RERENGGAN 1SIGN_CECAK 3TELU 2LAYAR 2PANYANGGA 2WIGNYAN 1TURNED_PADA_PISELEH
    1VOWEL_SIGN_DIRGA_MURE 3PEPET 3SUKU 4MENDUT 3TALING 3TARUNG 3TOLONG 3WULU 4MELIK 0JEANS
    0JIGSAW_PUZZLE_PIECE 0JOIN 0JOYSTICK 0JUGGLING 0JUNO 0JUPITER
    "),
    ('K', "
    0KAABA 0KAITHI_ABBREVIATION_SIGN 1DANDA 1DOUBLE_DANDA 2SECTION_MARK 1ENUMERATION_SIGN 1LETTER_A
    2AA 2AI 2AU 2BA 2BHA 2CA 2CHA 2DA 2DDA 2DDDHA 2DDHA 2DHA 2E 2GA 2GHA 2HA 2I 2II 2JA 2JHA 2KA
    2KHA 2LA 2MA 2NA 2NGA 2NNA 2NYA 2O 2PA 2PHA 2RA 2RHA 2SA 2SHA 2SSA 2TA 2THA 2TTA 2TTHA 2U 2UU
    2VA 2YA 1NUMBER_SIGN 3ABOVE 1SECTION_MARK 1SIGN_ANUSVARA 2CANDRABINDU 2NUKTA 2VIRAMA 2VISARGA
    1VOWEL_SIGN_AA 3AI 3AU 3E 3I 3II 3O 3U 3UU 3VOCALIC_R 0KANGAROO 0KANGXI_RADICAL_AGAIN 2AND
    2ARRIVE 2ARROW 2AXE 2BADGER 2BAMBOO 2BEAN 2BIG 2BIRD 2BITTER 2BLACK 2BLOOD 2BLUE 2BOAT 2BODY
    2BOLT_OF_CLOTH 2BONE 2BOW 2BRANCH 2BRISTLE 2BRUSH 2CART 2CAULDRON 2CAVE 2CHILD 2CITY 2CLAN 2CLAW
    2CLIFF 2CLOTHES 2COLOR 2COMPARE 2CORPSE 2COVER 2COW 2DEATH 2DEER 2DIPPER 2DISH 2DISTINGUISH
    2DIVINATION 2DO_NOT 2DOG 2DOOR 2DOT 2DOTTED_CLIFF 3TENT 2DOUBLE_X 2DOWN_BOX 2DRAGON 2DRUM 2DRY
    2EAR 2EARTH 2EAT 2EIGHT 2EMBROIDERY 2ENCLOSURE 2ENTER 2EVEN 2EVENING 2EYE 2FACE 2FANG 2FATHER
    2FEATHER 2FIELD 2FIGHT 2FIRE 2FISH 2FLUTE 2FLY 2FOOT 2FRAGRANT 2FROG 2FUR 2GATE 2GHOST 2GO
    3SLOWLY 2GOLD 2GRAIN 2GRASS 2HAIR 2HALBERD 2HALF_TREE_TRUNK 2HAND 2HEAD 2HEART 2HEMP
    2HIDING_ENCLOSURE 2HOOK 2HORN 2HORSE 2ICE 2INCH 2INSECT 2JADE 2JAR 2KNIFE 2LACK 2LAME 2LEAF
    2LEATHER 2LEEK 2LEGS 2LID 2LIFE 2LINE 2LONG 3STRIDE 2MAN 2MEAT 2MELON 2MILLET 2MINISTER 2MOON
    2MORNING 2MORTAR 2MOUND 2MOUNTAIN 2MOUTH 2NET 2NOSE 2NOT 2OLD 2ONE 2ONESELF 2OPEN_BOX 2OPPOSE
    2PIG 2PLOW 2POWER 2PRIVATE 2PROFOUND 2RAIN 2RAP 2RAT 2RED 2RICE 2RIGHT_OPEN_BOX 2RIVER 2ROOF
    2RUN 2SACRIFICIAL_WINE 2SALT 2SAY 2SCHOLAR 2SCRIPT 2SEAL 2SECOND 2SEE 2SELF 2SHEEP 2SHELL 2SHOOT
    2SHORT_TAILED_BIRD 3THREAD 2SICKNESS 2SILK 2SKIN 2SLASH 2SLAVE 2SLICE 2SMALL 2SNOUT 2SOUND
    2SPEAR 2SPEECH 2SPIRIT 2SPOON 2SPROUT 2SQUARE 2STAND 2STEAM 2STEP 2STONE 2STOP 2STOPPING 2SUN
    2SWEET 2TABLE 2TALL 2TANNED_LEATHER 2TEN 2TIGER 2TILE 2TONGUE 2TOOTH 2TRACK 2TREE 2TRIPOD
    2TURBAN 2TURTLE 2TWO 3HANDS 2USE 2VALLEY 2VILLAGE 2WALK 3ENCLOSURE 2WATER 2WEAPON 2WEST 2WHEAT
    2WHITE 2WIND 2WINE 2WOMAN 2WORK 2WRAP 2WRONG 2YELLOW 0KANNADA_AI_LENGTH_MARK 1DIGIT_EIGHT 2FIVE
    2FOUR 2NINE 2ONE 2SEVEN 2SIX 2THREE 2TWO 2ZERO 1LENGTH_MARK 1LETTER_A 2AA 2AI 2AU 2BA 2BHA 2CA
    2CHA 2DA 2DDA 2DDHA 2DHA 2E 2EE 2FA 2GA 2GHA 2HA 2I 2II 2JA 2JHA 2KA 2KHA 2LA 2LLA 2LLLA 2MA 2NA
    2NAKAARA_POLLU 2NGA 2NNA 2NYA 2O 2OO 2PA 2PHA 2RA 2RRA 2SA 2SHA 2SSA 2TA 2THA 2TTA 2TTHA 2U 2UU
    2VA 2VOCALIC_L 3LL 3R 3RR 2YA 1SIGN_ANUSVARA 2AVAGRAHA 2CANDRABINDU 2JIHVAMULIYA 2NUKTA 2SIDDHAM
    2SPACING_CANDRABINDU 2UPADHMANIYA 2VIRAMA 2VISARGA 1VOWEL_SIGN_AA 3AI 3AU 3E 3EE 3I 3II 3O 3OO
    3U 3UU 3VOCALIC_L 4LL 4R 4RR 0KATAKANA_DIGRAPH_KOTO 1ITERATION_MARK 1LETTER_A 2ARCHAIC_E 3WU 3YE
    3YI 2BA 2BE 2BI 2BO 2BU 2DA 2DE 2DI 2DO 2DU 2E 2GA 2GE 2GI 2GO 2GU 2HA 2HE 2HI 2HO 2HU 2I 2KA
    2KE 2KI 2KO 2KU 2MA 2ME 2MI 2MINNAN_NASALIZED_TONE-1 4TONE-2 4TONE-3 4TONE-4 4TONE-5 4TONE-7
    4TONE-8 3TONE-2 3TONE-3 3TONE-4 3TONE-5 3TONE-7 3TONE-8 2MO 2MU 2N 2NA 2NE 2NI 2NO 2NU 2O 2PA
    2PE 2PI 2PO 2PU 2RA 2RE 2RI 2RO 2RU 2SA 2SE 2SI 2SMALL_A 3E 3HA 3HE 3HI 3HO 3HU 3I 3KA 3KE 3KU
    3MU 3N 3NU 3O 3RA 3RE 3RI 3RO 3RU 3SI 3SU 3TO 3TU 3U 3WA 3WE 3WI 3WO 3YA 3YO 3YU 2SO 2SU 2TA 2TE
    2TI 2TO 2TU 2U 2VA 2VE 2VI 2VO 2VU 2WA 2WE 2WI 2WO 2YA 2YO 2YU 2ZA 2ZE 2ZI 2ZO 2ZU 1MIDDLE_DOT
    1VOICED_ITERATION_MARK 0KATAKANA-HIRAGANA_DOUBLE_HYPHEN 1PROLONGED_SOUND_MARK
    1SEMI-VOICED_SOUND_MARK 1VOICED_SOUND_MARK 0KAYAH_LI_DIGIT_EIGHT 3FIVE 3FOUR 3NINE 3ONE 3SEVEN
    3SIX 3THREE 3TWO 3ZERO 2LETTER_A 3BA 3CA 3DA 3GA 3HA 3HTA 3I 3KA 3KHA 3LA 3MA 3NA 3NGA 3NYA 3OE
    3OO 3PA 3PHA 3RA 3SA 3SHA 3TA 3THA 3VA 3WA 3YA 3ZA 2SIGN_CWI 3SHYA 2TONE_CALYA 4PLOPHU 3PLOPHU
    2VOWEL_E 3EE 3O 3U 3UE 0KELVIN_SIGN 0KEY 0KEYBOARD 1AND_MOUSE 0KEYCAP_TEN 0KHAROSHTHI_DIGIT_FOUR
    2ONE 2THREE 2TWO 1FRACTION_ONE_HALF 1LETTER_A 2BA 2BHA 2CA 2CHA 2DA 2DDA 2DDHA 2DHA 2GA 2GHA 2HA
    2JA 2KA 2KHA 2KKA 2LA 2MA 2NA 2NNA 2NYA 2PA 2PHA 2RA 2SA 2SHA 2SSA 2TA 2THA 2TTA 2TTHA 2TTTA
    2TTTHA 2VA 2VHA 2YA 2ZA 1NUMBER_ONE_HUNDRED 3THOUSAND 2TEN 2TWENTY 1PUNCTUATION_CIRCLE
    2CRESCENT_BAR 2DANDA 2DOT 2DOUBLE_DANDA 2LINES 2LOTUS 2MANGALAM 2SMALL_CIRCLE 1SIGN_ANUSVARA
    2BAR_ABOVE 2CAUDA 2DOT_BELOW 2DOUBLE_RING_BELOW 2VISARGA 1VIRAMA 1VOWEL_LENGTH_MARK 2SIGN_E 3I
    3O 3U 3VOCALIC_R 0KHITAN_SMALL_SCRIPT_CHARACTER-18B00 3CHARACTER-18B01 3CHARACTER-18B02
    3CHARACTER-18B03 3CHARACTER-18B04 3CHARACTER-18B05 3CHARACTER-18B06 3CHARACTER-18B07
    3CHARACTER-18B08 3CHARACTER-18B09 3CHARACTER-18B0A 3CHARACTER-18B0B 3CHARACTER-18B0C
    3CHARACTER-18B0D 3CHARACTER-18B0E 3CHARACTER-18B0F 3CHARACTER-18B10 3CHARACTER-18B11
    3CHARACTER-18B12 3CHARACTER-18B13 3CHARACTER-18B14 3CHARACTER-18B15 3CHARACTER-18B16
    3CHARACTER-18B17 3CHARACTER-18B18 3CHARACTER-18B19 3CHARACTER-18B1A 3CHARACTER-18B1B
    3CHARACTER-18B1C 3CHARACTER-18B1D 3CHARACTER-18B1E 3CHARACTER-18B1F 3CHARACTER-18B20
    3CHARACTER-18B21 3CHARACTER-18B22 3CHARACTER-18B23 3CHARACTER-18B24 3CHARACTER-18B25
    3CHARACTER-18B26 3CHARACTER-18B27 3CHARACTER-18B28 3CHARACTER-18B29 3CHARACTER-18B2A
    3CHARACTER-18B2B 3CHARACTER-18B2C 3CHARACTER-18B2D 3CHARACTER-18B2E 3CHARACTER-18B2F
    3CHARACTER-18B30 3CHARACTER-18B31 3CHARACTER-18B32 3CHARACTER-18B33 3CHARACTER-18B34
    3CHARACTER-18B35 3CHARACTER-18B36 3CHARACTER-18B37 3CHARACTER-18B38 3CHARACTER-18B39
    3CHARACTER-18B3A 3CHARACTER-18B3B 3CHARACTER-18B3C 3CHARACTER-18B3D 3CHARACTER-18B3E
    3CHARACTER-18B3F 3CHARACTER-18B40 3CHARACTER-18B41 3CHARACTER-18B42 3CHARACTER-18B43
    3CHARACTER-18B44 3CHARACTER-18B45 3CHARACTER-18B46 3CHARACTER-18B47 3CHARACTER-18B48
    3CHARACTER-18B49 3CHARACTER-18B4A 3CHARACTER-18B4B 3CHARACTER-18B4C 3CHARACTER-18B4D
    3CHARACTER-18B4E 3CHARACTER-18B4F 3CHARACTER-18B50 3CHARACTER-18B51 3CHARACTER-18B52
    3CHARACTER-18B53 3CHARACTER-18B54 3CHARACTER-18B55 3CHARACTER-18B56 3CHARACTER-18B57
    3CHARACTER-18B58 3CHARACTER-18B59 3CHARACTER-18B5A 3CHARACTER-18B5B 3CHARACTER-18B5C
    3CHARACTER-18B5D 3CHARACTER-18B5E 3CHARACTER-18B5F 3CHARACTER-18B60 3CHARACTER-18B61
    3CHARACTER-18B62 3CHARACTER-18B63 3CHARACTER-18B64 3CHARACTER-18B65 3CHARACTER-18B66
    3CHARACTER-18B67 3CHARACTER-18B68 3CHARACTER-18B69 3CHARACTER-18B6A 3CHARACTER-18B6B
    3CHARACTER-18B6C 3CHARACTER-18B6D 3CHARACTER-18B6E 3CHARACTER-18B6F 3CHARACTER-18B70
    3CHARACTER-18B71 3CHARACTER-18B72 3CHARACTER-18B73 3CHARACTER-18B74 3CHARACTER-18B75
    3CHARACTER-18B76 3CHARACTER-18B77 3CHARACTER-18B78 3CHARACTER-18B79 3CHARACTER-18B7A
    3CHARACTER-18B7B 3CHARACTER-18B7C 3CHARACTER-18B7D 3CHARACTER-18B7E 3CHARACTER-18B7F
    3CHARACTER-18B80 3CHARACTER-18B81 3CHARACTER-18B82 3CHARACTER-18B83 3CHARACTER-18B84
    3CHARACTER-18B85 3CHARACTER-18B86 3CHARACTER-18B87 3CHARACTER-18B88 3CHARACTER-18B89
    3CHARACTER-18B8A 3CHARACTER-18B8B 3CHARACTER-18B8C 3CHARACTER-18B8D 3CHARACTER-18B8E
    3CHARACTER-18B8F 3CHARACTER-18B90 3CHARACTER-18B91 3CHARACTER-18B92 3CHARACTER-18B93
    3CHARACTER-18B94 3CHARACTER-18B95 3CHARACTER-18B96 3CHARACTER-18B97 3CHARACTER-18B98
    3CHARACTER-18B99 3CHARACTER-18B9A 3CHARACTER-18B9B 3CHARACTER-18B9C 3CHARACTER-18B9D
    3CHARACTER-18B9E 3CHARACTER-18B9F 3CHARACTER-18BA0 3CHARACTER-18BA1 3CHARACTER-18BA2
    3CHARACTER-18BA3 3CHARACTER-18BA4 3CHARACTER-18BA5 3CHARACTER-18BA6 3CHARACTER-18BA7
    3CHARACTER-18BA8 3CHARACTER-18BA9 3CHARACTER-18BAA 3CHARACTER-18BAB 3CHARACTER-18BAC
    3CHARACTER-18BAD 3CHARACTER-18BAE 3CHARACTER-18BAF 3CHARACTER-18BB0 3CHARACTER-18BB1
    3CHARACTER-18BB2 3CHARACTER-18BB3 3CHARACTER-18BB4 3CHARACTER-18BB5 3CHARACTER-18BB6
    3CHARACTER-18BB7 3CHARACTER-18BB8 3CHARACTER-18BB9 3CHARACTER-18BBA 3CHARACTER-18BBB
    3CHARACTER-18BBC 3CHARACTER-18BBD 3CHARACTER-18BBE 3CHARACTER-18BBF 3CHARACTER-18BC0
    3CHARACTER-18BC1 3CHARACTER-18BC2 3CHARACTER-18BC3 3CHARACTER-18BC4 3CHARACTER-18BC5
    3CHARACTER-18BC6 3CHARACTER-18BC7 3CHARACTER-18BC8 3CHARACTER-18BC9 3CHARACTER-18BCA
    3CHARACTER-18BCB 3CHARACTER-18BCC 3CHARACTER-18BCD 3CHARACTER-18BCE 3CHARACTER-18BCF
    3CHARACTER-18BD0 3CHARACTER-18BD1 3CHARACTER-18BD2 3CHARACTER-18BD3 3CHARACTER-18BD4
    3CHARACTER-18BD5 3CHARACTER-18BD6 3CHARACTER-18BD7 3CHARACTER-18BD8 3CHARACTER-18BD9
    3CHARACTER-18BDA 3CHARACTER-18BDB 3CHARACTER-18BDC 3CHARACTER-18BDD 3CHARACTER-18BDE
    3CHARACTER-18BDF 3CHARACTER-18BE0 3CHARACTER-18BE1 3CHARACTER-18BE2 3CHARACTER-18BE3
    3CHARACTER-18BE4 3CHARACTER-18BE5 3CHARACTER-18BE6 3CHARACTER-18BE7 3CHARACTER-18BE8
    3CHARACTER-18BE9 3CHARACTER-18BEA 3CHARACTER-18BEB 3CHARACTER-18BEC 3CHARACTER-18BED
    3CHARACTER-18BEE 3CHARACTER-18BEF 3CHARACTER-18BF0 3CHARACTER-18BF1 3CHARACTER-18BF2
    3CHARACTER-18BF3 3CHARACTER-18BF4 3CHARACTER-18BF5 3CHARACTER-18BF6 3CHARACTER-18BF7
    3CHARACTER-18BF8 3CHARACTER-18BF9 3CHARACTER-18BFA 3CHARACTER-18BFB 3CHARACTER-18BFC
    3CHARACTER-18BFD 3CHARACTER-18BFE 3CHARACTER-18BFF 3CHARACTER-18C00 3CHARACTER-18C01
    3CHARACTER-18C02 3CHARACTER-18C03 3CHARACTER-18C04 3CHARACTER-18C05 3CHARACTER-18C06
    3CHARACTER-18C07 3CHARACTER-18C08 3CHARACTER-18C09 3CHARACTER-18C0A 3CHARACTER-18C0B
    3CHARACTER-18C0C 3CHARACTER-18C0D 3CHARACTER-18C0E 3CHARACTER-18C0F 3CHARACTER-18C10
    3CHARACTER-18C11 3CHARACTER-18C12 3CHARACTER-18C13 3CHARACTER-18C14 3CHARACTER-18C15
    3CHARACTER-18C16 3CHARACTER-18C17 3CHARACTER-18C18 3CHARACTER-18C19 3CHARACTER-18C1A
    3CHARACTER-18C1B 3CHARACTER-18C1C 3CHARACTER-18C1D 3CHARACTER-18C1E 3CHARACTER-18C1F
    3CHARACTER-18C20 3CHARACTER-18C21 3CHARACTER-18C22 3CHARACTER-18C23 3CHARACTER-18C24
    3CHARACTER-18C25 3CHARACTER-18C26 3CHARACTER-18C27 3CHARACTER-18C28 3CHARACTER-18C29
    3CHARACTER-18C2A 3CHARACTER-18C2B 3CHARACTER-18C2C 3CHARACTER-18C2D 3CHARACTER-18C2E
    3CHARACTER-18C2F 3CHARACTER-18C30 3CHARACTER-18C31 3CHARACTER-18C32 3CHARACTER-18C33
    3CHARACTER-18C34 3CHARACTER-18C35 3CHARACTER-18C36 3CHARACTER-18C37 3CHARACTER-18C38
    3CHARACTER-18C39 3CHARACTER-18C3A 3CHARACTER-18C3B 3CHARACTER-18C3C 3CHARACTER-18C3D
    3CHARACTER-18C3E 3CHARACTER-18C3F 3CHARACTER-18C40 3CHARACTER-18C41 3CHARACTER-18C42
    3CHARACTER-18C43 3CHARACTER-18C44 3CHARACTER-18C45 3CHARACTER-18C46 3CHARACTER-18C47
    3CHARACTER-18C48 3CHARACTER-18C49 3CHARACTER-18C4A 3CHARACTER-18C4B 3CHARACTER-18C4C
    3CHARACTER-18C4D 3CHARACTER-18C4E 3CHARACTER-18C4F 3CHARACTER-18C50 3CHARACTER-18C51
    3CHARACTER-18C52 3CHARACTER-18C53 3CHARACTER-18C54 3CHARACTER-18C55 3CHARACTER-18C56
    3CHARACTER-18C57 3CHARACTER-18C58 3CHARACTER-18C59 3CHARACTER-18C5A 3CHARACTER-18C5B
    3CHARACTER-18C5C 3CHARACTER-18C5D 3CHARACTER-18C5E 3CHARACTER-18C5F 3CHARACTER-18C60
    3CHARACTER-18C61 3CHARACTER-18C62 3CHARACTER-18C63 3CHARACTER-18C64 3CHARACTER-18C65
    3CHARACTER-18C66 3CHARACTER-18C67 3CHARACTER-18C68 3CHARACTER-18C69 3CHARACTER-18C6A
    3CHARACTER-18C6B 3CHARACTER-18C6C 3CHARACTER-18C6D 3CHARACTER-18C6E 3CHARACTER-18C6F
    3CHARACTER-18C70 3CHARACTER-18C71 3CHARACTER-18C72 3CHARACTER-18C73 3CHARACTER-18C74
    3CHARACTER-18C75 3CHARACTER-18C76 3CHARACTER-18C77 3CHARACTER-18C78 3CHARACTER-18C79
    3CHARACTER-18C7A 3CHARACTER-18C7B 3CHARACTER-18C7C 3CHARACTER-18C7D 3CHARACTER-18C7E
    3CHARACTER-18C7F 3CHARACTER-18C80 3CHARACTER-18C81 3CHARACTER-18C82 3CHARACTER-18C83
    3CHARACTER-18C84 3CHARACTER-18C85 3CHARACTER-18C86 3CHARACTER-18C87 3CHARACTER-18C88
    3CHARACTER-18C89 3CHARACTER-18C8A 3CHARACTER-18C8B 3CHARACTER-18C8C 3CHARACTER-18C8D
    3CHARACTER-18C8E 3CHARACTER-18C8F 3CHARACTER-18C90 3CHARACTER-18C91 3CHARACTER-18C92
    3CHARACTER-18C93 3CHARACTER-18C94 3CHARACTER-18C95 3CHARACTER-18C96 3CHARACTER-18C97
    3CHARACTER-18C98 3CHARACTER-18C99 3CHARACTER-18C9A 3CHARACTER-18C9B 3CHARACTER-18C9C
    3CHARACTER-18C9D 3CHARACTER-18C9E 3CHARACTER-18C9F 3CHARACTER-18CA0 3CHARACTER-18CA1
    3CHARACTER-18CA2 3CHARACTER-18CA3 3CHARACTER-18CA4 3CHARACTER-18CA5 3CHARACTER-18CA6
    3CHARACTER-18CA7 3CHARACTER-18CA8 3CHARACTER-18CA9 3CHARACTER-18CAA 3CHARACTER-18CAB
    3CHARACTER-18CAC 3CHARACTER-18CAD 3CHARACTER-18CAE 3CHARACTER-18CAF 3CHARACTER-18CB0
    3CHARACTER-18CB1 3CHARACTER-18CB2 3CHARACTER-18CB3 3CHARACTER-18CB4 3CHARACTER-18CB5
    3CHARACTER-18CB6 3CHARACTER-18CB7 3CHARACTER-18CB8 3CHARACTER-18CB9 3CHARACTER-18CBA
    3CHARACTER-18CBB 3CHARACTER-18CBC 3CHARACTER-18CBD 3CHARACTER-18CBE 3CHARACTER-18CBF
    3CHARACTER-18CC0 3CHARACTER-18CC1 3CHARACTER-18CC2 3CHARACTER-18CC3 3CHARACTER-18CC4
    3CHARACTER-18CC5 3CHARACTER-18CC6 3CHARACTER-18CC7 3CHARACTER-18CC8 3CHARACTER-18CC9
    3CHARACTER-18CCA 3CHARACTER-18CCB 3CHARACTER-18CCC 3CHARACTER-18CCD 3CHARACTER-18CCE
    3CHARACTER-18CCF 3CHARACTER-18CD0 3CHARACTER-18CD1 3CHARACTER-18CD2 3CHARACTER-18CD3
    3CHARACTER-18CD4 3CHARACTER-18CD5 3FILLER 0KHMER_CURRENCY_SYMBOL_RIEL 1DIGIT_EIGHT 2FIVE 2FOUR
    2NINE 2ONE 2SEVEN 2SIX 2THREE 2TWO 2ZERO 1INDEPENDENT_VOWEL_LY 3LYY 3QAA 3QAI 3QAQ 3QAU 3QE 3QI
    3QII 3QOO_TYPE_ONE 5TWO 3QU 3QUK 3QUU 3QUUV 3RY 3RYY 1LETTER_BA 2CA 2CHA 2CHO 2CO 2DA 2DO 2HA
    2KA 2KHA 2KHO 2KO 2LA 2LO 2MO 2NGO 2NNO 2NO 2NYO 2PHA 2PHO 2PO 2QA 2RO 2SA 2SHA 2SSO 2TA 2THA
    2THO 2TO 2TTHA 2TTHO 2VO 2YO 1SIGN_AHSDA 2ATTHACAN 2AVAKRAHASANYA 2BANTOC 2BARIYOOSAN
    2BATHAMASAT 2BEYYAL 2CAMNUC_PII_KUUH 2COENG 2KAKABAT 2KHAN 2KOOMUUT 2LEK_TOO 2MUUSIKATOAN
    2NIKAHIT 2PHNAEK_MUAN 2REAHMUK 2ROBAT 2SAMYOK_SANNYA 2TOANDAKHIAT 2TRIISAP 2VIRIAM
    2YUUKALEAPINTU 1SYMBOL_BEI_KOET 3ROC 2BUON_KOET 3ROC 2DAP_KOET 3ROC 2DAP-BEI_KOET 3ROC
    2DAP-BUON_KOET 3ROC 2DAP-MUOY_KOET 3ROC 2DAP-PII_KOET 3ROC 2DAP-PRAM_KOET 3ROC 2LEK_ATTAK_BEI
    4BUON 4MUOY 4PII 4PRAM 4PRAM-BEI 4PRAM-BUON 4PRAM-MUOY 4PRAM-PII 4SON 2MUOY_KOET 3ROC
    2PATHAMASAT 2PII_KOET 3ROC 2PRAM_KOET 3ROC 2PRAM-BEI_KOET 3ROC 2PRAM-BUON_KOET 3ROC
    2PRAM-MUOY_KOET 3ROC 2PRAM-PII_KOET 3ROC 2TUTEYASAT 1VOWEL_INHERENT_AA 3AQ 2SIGN_AA 3AE 3AI 3AU
    3E 3I 3IE 3II 3OE 3OO 3U 3UA 3UU 3Y 3YA 3YY 0KHOJKI_ABBREVIATION_SIGN 1DANDA 1DOUBLE_DANDA
    2SECTION_MARK 1LETTER_A 2AA 2AI 2AU 2BA 2BBA 2BHA 2CA 2CHA 2DA 2DDA 2DDDA 2DDHA 2DHA 2E 2GA 2GGA
    2GHA 2HA 2I 2JA 2JJA 2KA 2KHA 2LA 2LLA 2MA 2NA 2NGA 2NNA 2NYA 2O 2PA 2PHA 2RA 2SA 2TA 2THA 2TTA
    2TTHA 2U 2VA 2YA 1SECTION_MARK 1SIGN_ANUSVARA 2NUKTA 2SHADDA 2SUKUN 2VIRAMA 1VOWEL_SIGN_AA 3AI
    3AU 3E 3I 3II 3O 3U 1WORD_SEPARATOR 0KHUDAWADI_DIGIT_EIGHT 2FIVE 2FOUR 2NINE 2ONE 2SEVEN 2SIX
    2THREE 2TWO 2ZERO 1LETTER_A 2AA 2AI 2AU 2BA 2BBA 2BHA 2CA 2CHA 2DA 2DDA 2DDDA 2DDHA 2DHA 2E 2GA
    2GGA 2GHA 2HA 2I 2II 2JA 2JHA 2JJA 2KA 2KHA 2LA 2MA 2NA 2NGA 2NNA 2NYA 2O 2PA 2PHA 2RA 2RRA 2SA
    2SHA 2TA 2THA 2TTA 2TTHA 2U 2UU 2VA 2YA 1SIGN_ANUSVARA 2NUKTA 2VIRAMA 1VOWEL_SIGN_AA 3AI 3AU 3E
    3I 3II 3O 3U 3UU 0KIMONO 0KIP_SIGN 0KISS 1MARK 0KISSING_CAT_FACE_WITH_CLOSED_EYES 1FACE
    2WITH_CLOSED_EYES 3SMILING_EYES 0KITE 0KIWIFRUIT 0KNEELING_PERSON 0KNOT 0KOALA
    0KOREAN_STANDARD_SYMBOL 0KRONOS
    "),
    ('L', "
    0L_B_BAR_SYMBOL 0LAB_COAT 0LABEL 0LACROSSE_STICK_AND_BALL 0LADDER 0LADY_BEETLE 0LANGUAGE_TAG
    0LAO_CANCELLATION_MARK 1DIGIT_EIGHT 2FIVE 2FOUR 2NINE 2ONE 2SEVEN 2SIX 2THREE 2TWO 2ZERO
    1ELLIPSIS 1HO_MO 2NO 1KO_LA 1LETTER_BO 2CO 2DO 2FO_FAY 3FON 3SUNG 3TAM 2HO_SUNG 3TAM 2KHMU_GO
    3NYO 2KHO_SUNG 3TAM 2KO 2LO 3LING 3LOOT 2MO 2NGO 2NO 2NYO 2O 2PALI_BHA 3CHA 3DDA 3DDHA 3DHA 3GHA
    3JHA 3LLA 3NNA 3NYA 3TTA 3TTHA 2PHO_SUNG 3TAM 2PO 2RO 2SANSKRIT_SHA 3SSA 2SO_SUNG 3TAM 2THO_SUNG
    3TAM 2TO 2WO 2YO 1NIGGAHITA 1SEMIVOWEL_SIGN_LO 3NYO 1SIGN_PALI_VIRAMA 1TONE_MAI_CATAWA 3EK 3THO
    3TI 1VOWEL_SIGN_A 3AA 3AI 3AM 3AY 3E 3EI 3I 3II 3MAI_KAN 4KON 3O 3U 3UU 3Y 3YY
    0LARGE_BLUE_CIRCLE 2DIAMOND 2SQUARE 1BROWN_CIRCLE 2SQUARE 1CIRCLE 1DOWN_TACK 1GREEN_CIRCLE
    2SQUARE 1LEFT_TRIANGLE_OPERATOR 1ONE_DOT_OVER_TWO_DOTS_PUNCTUATION
    2RING_OVER_TWO_RINGS_PUNCTUATION 1ORANGE_CIRCLE 2DIAMOND 2SQUARE 1PURPLE_CIRCLE 2SQUARE
    1RED_CIRCLE 2SQUARE 1TRIPLE_VERTICAL_BAR_OPERATOR 1TWO_DOTS_OVER_ONE_DOT_PUNCTUATION
    2RINGS_OVER_ONE_RING_PUNCTUATION 1UP_TACK 1YELLOW_CIRCLE 2SQUARE 0LARGER_THAN 2OR_EQUAL_TO
    0LARI_SIGN 0LAST_QUARTER_MOON 3SYMBOL 3WITH_FACE 0LATIN_CAPITAL_LETTER_A 4WITH_ACUTE 5BREVE
    6AND_ACUTE 7DOT_BELOW 7GRAVE 7HOOK_ABOVE 7TILDE 5CARON 5CIRCUMFLEX 6AND_ACUTE 7DOT_BELOW 7GRAVE
    7HOOK_ABOVE 7TILDE 5DIAERESIS 6AND_MACRON 5DOT_ABOVE 7AND_MACRON 6BELOW 5DOUBLE_GRAVE 5GRAVE
    5HOOK_ABOVE 5INVERTED_BREVE 5MACRON 5OGONEK 5RING_ABOVE 7AND_ACUTE 6BELOW 5STROKE 5TILDE 3AA 3AE
    4WITH_ACUTE 5MACRON 3AFRICAN_D 3ALPHA 3ANGLICANA_W 3AO 3AU 3AV 4WITH_HORIZONTAL_BAR 3AY 3B
    4WITH_DOT_ABOVE 6BELOW 5FLOURISH 5HOOK 5LINE_BELOW 5STROKE 5TOPBAR 3BETA 3BROKEN_L 3C
    4WITH_ACUTE 5BAR 5CARON 5CEDILLA 6AND_ACUTE 5CIRCUMFLEX 5DOT_ABOVE 5HOOK 5PALATAL_HOOK 5STROKE
    3CHI 3CLOSED_INSULAR_G 3CON 3CUATRILLO 4WITH_COMMA 3D 4WITH_CARON 5CEDILLA 5CIRCUMFLEX_BELOW
    5DOT_ABOVE 6BELOW 5HOOK 5LINE_BELOW 5SHORT_STROKE_OVERLAY 5SMALL_LETTER_Z 8WITH_CARON 5STROKE
    5TOPBAR 3DZ 4WITH_CARON 3E 4WITH_ACUTE 5BREVE 5CARON 5CEDILLA 6AND_BREVE 5CIRCUMFLEX 6AND_ACUTE
    7DOT_BELOW 7GRAVE 7HOOK_ABOVE 7TILDE 6BELOW 5DIAERESIS 5DOT_ABOVE 6BELOW 5DOUBLE_GRAVE 5GRAVE
    5HOOK_ABOVE 5INVERTED_BREVE 5MACRON 6AND_ACUTE 7GRAVE 5OGONEK 5STROKE 5TILDE 6BELOW
    3EGYPTOLOGICAL_AIN 4ALEF 3ENG 3ESH 3ET 3ETH 3EZH 4REVERSED 4WITH_CARON 3F 4WITH_DOT_ABOVE 5HOOK
    5STROKE 3G 4WITH_ACUTE 5BREVE 5CARON 5CEDILLA 5CIRCUMFLEX 5DOT_ABOVE 5HOOK 5MACRON
    5OBLIQUE_STROKE 5STROKE 3GAMMA 3GHA 3GLOTTAL_A 4I 4STOP 4U 3H 4WITH_BREVE_BELOW 5CARON 5CEDILLA
    5CIRCUMFLEX 5DESCENDER 5DIAERESIS 5DOT_ABOVE 6BELOW 5HOOK 5STROKE 3HALF_H 3HENG 3HWAIR 3I
    4WITH_ACUTE 5BREVE 5CARON 5CIRCUMFLEX 5DIAERESIS 6AND_ACUTE 5DOT_ABOVE 6BELOW 5DOUBLE_GRAVE
    5GRAVE 5HOOK_ABOVE 5INVERTED_BREVE 5MACRON 5OGONEK 5STROKE 5TILDE 6BELOW 3INSULAR_D 4F 4G 4R 4S
    4T 3IOTA 3IS 3J 4WITH_CIRCUMFLEX 5CROSSED-TAIL 5STROKE 3K 4WITH_ACUTE 5CARON 5CEDILLA 5DESCENDER
    5DIAGONAL_STROKE 5DOT_BELOW 5HOOK 5LINE_BELOW 5OBLIQUE_STROKE 5STROKE 6AND_DIAGONAL_STROKE 3L
    4WITH_ACUTE 5BAR 5BELT 5CARON 5CEDILLA 5CIRCUMFLEX_BELOW 5DOT_BELOW 7AND_MACRON 5DOUBLE_BAR
    5HIGH_STROKE 5LINE_BELOW 5MIDDLE_DOT 6TILDE 5SMALL_LETTER_J 5STROKE 3LJ 3M 4WITH_ACUTE
    5DOT_ABOVE 6BELOW 5HOOK 3MIDDLE_SCOTS_S 3MIDDLE-WELSH_LL 4V 3N 4WITH_ACUTE 5CARON 5CEDILLA
    5CIRCUMFLEX_BELOW 5DESCENDER 5DOT_ABOVE 6BELOW 5GRAVE 5LEFT_HOOK 5LINE_BELOW 5LONG_RIGHT_LEG
    5OBLIQUE_STROKE 5SMALL_LETTER_J 5TILDE 3NJ 3O 4WITH_ACUTE 5BREVE 5CARON 5CIRCUMFLEX 6AND_ACUTE
    7DOT_BELOW 7GRAVE 7HOOK_ABOVE 7TILDE 5DIAERESIS 6AND_MACRON 5DOT_ABOVE 7AND_MACRON 6BELOW
    5DOUBLE_ACUTE 6GRAVE 5GRAVE 5HOOK_ABOVE 5HORN 6AND_ACUTE 7DOT_BELOW 7GRAVE 7HOOK_ABOVE 7TILDE
    5INVERTED_BREVE 5LONG_STROKE_OVERLAY 5LOOP 5MACRON 6AND_ACUTE 7GRAVE 5MIDDLE_TILDE 5OGONEK
    6AND_MACRON 5STROKE 6AND_ACUTE 5TILDE 6AND_ACUTE 7DIAERESIS 7MACRON 3OI 3OLD_POLISH_O 3OMEGA 3OO
    3OPEN_E 4O 3OU 3P 4WITH_ACUTE 5DOT_ABOVE 5FLOURISH 5HOOK 5SQUIRREL_TAIL 5STROKE
    6THROUGH_DESCENDER 3Q 4WITH_DIAGONAL_STROKE 5STROKE_THROUGH_DESCENDER 3R 4ROTUNDA 4WITH_ACUTE
    5CARON 5CEDILLA 5DOT_ABOVE 6BELOW 7AND_MACRON 5DOUBLE_GRAVE 5INVERTED_BREVE 5LINE_BELOW
    5OBLIQUE_STROKE 5STROKE 5TAIL 3REVERSED_C_WITH_DOT 4E 4HALF_H 4OPEN_E 3RUM_ROTUNDA 3S
    4WITH_ACUTE 6AND_DOT_ABOVE 5CARON 6AND_DOT_ABOVE 5CEDILLA 5CIRCUMFLEX 5COMMA_BELOW 5DOT_ABOVE
    6BELOW 7AND_DOT_ABOVE 5HOOK 5OBLIQUE_STROKE 5SHORT_STROKE_OVERLAY 5SWASH_TAIL 3SALTILLO 3SCHWA
    3SCRIPT_G 3SHARP_S 3SIGMOID_S 3SMALL_CAPITAL_I 4Q_WITH_HOOK_TAIL 3T 4WITH_CARON 5CEDILLA
    5CIRCUMFLEX_BELOW 5COMMA_BELOW 5DIAGONAL_STROKE 5DOT_ABOVE 6BELOW 5HOOK 5LINE_BELOW
    5RETROFLEX_HOOK 5STROKE 3THORN 4WITH_STROKE 6THROUGH_DESCENDER 3TONE_FIVE 4SIX 4TWO 3TRESILLO
    3TURNED_A 4ALPHA 4H 4INSULAR_G 4K 4L 4M 4T 4V 3TZ 3U 4BAR 4WITH_ACUTE 5BREVE 5CARON 5CIRCUMFLEX
    6BELOW 5DIAERESIS 6AND_ACUTE 7CARON 7GRAVE 7MACRON 6BELOW 5DOT_BELOW 5DOUBLE_ACUTE 6GRAVE 5GRAVE
    5HOOK_ABOVE 5HORN 6AND_ACUTE 7DOT_BELOW 7GRAVE 7HOOK_ABOVE 7TILDE 5INVERTED_BREVE 5MACRON
    6AND_DIAERESIS 5OGONEK 5RING_ABOVE 5STROKE 5TILDE 6AND_ACUTE 6BELOW 3UPSILON 3V
    4WITH_DIAGONAL_STROKE 5DOT_BELOW 5HOOK 5TILDE 3VEND 3VISIGOTHIC_Z 3VOLAPUK_AE 4OE 4UE 3VY 3W
    4WITH_ACUTE 5CIRCUMFLEX 5DIAERESIS 5DOT_ABOVE 6BELOW 5GRAVE 5HOOK 3WYNN 3X 4WITH_DIAERESIS
    5DOT_ABOVE 3Y 4WITH_ACUTE 5CIRCUMFLEX 5DIAERESIS 5DOT_ABOVE 6BELOW 5GRAVE 5HOOK 6ABOVE 5LOOP
    5MACRON 5STROKE 5TILDE 3YOGH 3Z 4WITH_ACUTE 5CARON 5CIRCUMFLEX 5DESCENDER 5DOT_ABOVE 6BELOW
    5HOOK 5LINE_BELOW 5PALATAL_HOOK 5STROKE 5SWASH_TAIL 2LIGATURE_IJ 3OE 1CROSS
    1EPIGRAPHIC_LETTER_ARCHAIC_M 3I_LONGA 3INVERTED_M 3REVERSED_F 4P 3SIDEWAYS_I 1LETTER_AIN
    2ALVEOLAR_CLICK 2BIDENTAL_PERCUSSIVE 2BILABIAL_CLICK 3PERCUSSIVE 2DENTAL_CLICK 2GLOTTAL_STOP
    4WITH_STROKE 2INVERTED_GLOTTAL_STOP 5WITH_CURL 6STROKE 2LATERAL_CLICK
    2PHARYNGEAL_VOICED_FRICATIVE 2RETROFLEX_CLICK 4WITH_RETROFLEX_HOOK 2REVERSED_ESH_LOOP
    3GLOTTAL_STOP_WITH_STROKE 2SINOLOGICAL_DOT 2SMALL_CAPITAL_A 4AE 4B 4BARRED_B 4C 4D 4E 4ETH 4EZH
    4F 4G 5WITH_HOOK 4H 4I 4INVERTED_R 4J 4K 4L 5WITH_BELT 6STROKE 4M 4N 4O 4OE 4OPEN_O 4OU 4P 4Q 4R
    5WITH_RIGHT_LEG 4REVERSED_N 5R 4RUM 4S 4T 4TURNED_E 5G 5K 5M 5R 4U 4V 4W 4Y 4Z 2STRETCHED_C
    4WITH_CURL 2TWO_WITH_STROKE 2VOICED_LARYNGEAL_SPIRANT 2WYNN 2YR
    1SMALL_CAPITAL_LETTER_I_WITH_STROKE 4U_WITH_STROKE 2LETTER_A 4REVERSED-SCHWA 4WITH_ACUTE 5BREVE
    6AND_ACUTE 7DOT_BELOW 7GRAVE 7HOOK_ABOVE 7TILDE 5CARON 5CIRCUMFLEX 6AND_ACUTE 7DOT_BELOW 7GRAVE
    7HOOK_ABOVE 7TILDE 5DIAERESIS 6AND_MACRON 5DOT_ABOVE 7AND_MACRON 6BELOW 5DOUBLE_GRAVE 5GRAVE
    5HOOK_ABOVE 5INVERTED_BREVE 5MACRON 5OGONEK 5RETROFLEX_HOOK 5RIGHT_HALF_RING 5RING_ABOVE
    7AND_ACUTE 6BELOW 5STROKE 5TILDE 3AA 3AE 4WITH_ACUTE 5MACRON 3ALPHA 4WITH_RETROFLEX_HOOK
    3ANGLICANA_W 3AO 3AU 3AV 4WITH_HORIZONTAL_BAR 3AY 3B 4WITH_DOT_ABOVE 6BELOW 5FLOURISH 5HOOK
    5LINE_BELOW 5MIDDLE_TILDE 5PALATAL_HOOK 5STROKE 5TOPBAR 3BARRED_ALPHA 4E 4O 3BASELINE_ESH 3BETA
    3BLACKLETTER_E 4O 5WITH_STROKE 3BOTTOM_HALF_O 3BROKEN_L 3C 4WITH_ACUTE 5BAR 5CARON 5CEDILLA
    6AND_ACUTE 5CIRCUMFLEX 5CURL 5DOT_ABOVE 5HOOK 5PALATAL_HOOK 5RETROFLEX_HOOK 5STROKE 3CHI
    4WITH_LOW_LEFT_SERIF 6RIGHT_RING 3CLOSED_INSULAR_G 4OMEGA 4OPEN_E 4REVERSED_OPEN_E 3CON
    3CUATRILLO 4WITH_COMMA 3D 4WITH_CARON 5CEDILLA 5CIRCUMFLEX_BELOW 5CURL 5DOT_ABOVE 6BELOW 5HOOK
    6AND_TAIL 5LINE_BELOW 5MIDDLE_TILDE 5PALATAL_HOOK 5SHORT_STROKE_OVERLAY 5STROKE 5TAIL 5TOPBAR
    3DB_DIGRAPH 3DELTA 3DEZH_DIGRAPH 5WITH_PALATAL_HOOK 6RETROFLEX_HOOK 3DOTLESS_I 4J 5WITH_STROKE
    7AND_HOOK 3DOUBLE_R 5WITH_CROSSED-TAIL 4THORN 4WYNN 3DUM 3DZ 4DIGRAPH 5WITH_CURL 6RETROFLEX_HOOK
    4WITH_CARON 3E 4WITH_ACUTE 5BREVE 5CARON 5CEDILLA 6AND_BREVE 5CIRCUMFLEX 6AND_ACUTE 7DOT_BELOW
    7GRAVE 7HOOK_ABOVE 7TILDE 6BELOW 5DIAERESIS 5DOT_ABOVE 6BELOW 5DOUBLE_GRAVE 5FLOURISH 5GRAVE
    5HOOK_ABOVE 5INVERTED_BREVE 5MACRON 6AND_ACUTE 7GRAVE 5NOTCH 5OGONEK 5RETROFLEX_HOOK 5STROKE
    5TILDE 6BELOW 3EGYPTOLOGICAL_AIN 4ALEF 3ENG 4WITH_CROSSED-TAIL 5PALATAL_HOOK 3ESH 4WITH_CURL
    5DOUBLE_BAR 7AND_CURL 5PALATAL_HOOK 5RETROFLEX_HOOK 3ET 3ETH 3EZH 4REVERSED 4WITH_CARON 5CURL
    5PALATAL_HOOK 5RETROFLEX_HOOK 5TAIL 3F 4WITH_DOT_ABOVE 5HOOK 5MIDDLE_TILDE 5PALATAL_HOOK 5STROKE
    3FENG_DIGRAPH 5WITH_TRILL 3G 4WITH_ACUTE 5BREVE 5CARON 5CEDILLA 5CIRCUMFLEX 5DOT_ABOVE 5HOOK
    5MACRON 5OBLIQUE_STROKE 5PALATAL_HOOK 5STROKE 3GAMMA 3GHA 3GLOTTAL_A 4I 4STOP 4U 3H
    4WITH_BREVE_BELOW 5CARON 5CEDILLA 5CIRCUMFLEX 5DESCENDER 5DIAERESIS 5DOT_ABOVE 6BELOW 5HOOK
    5LINE_BELOW 5PALATAL_HOOK 5STROKE 3HALF_H 3HENG 4WITH_HOOK 3HV 3I 4WITH_ACUTE 5BREVE 5CARON
    5CIRCUMFLEX 5DIAERESIS 6AND_ACUTE 5DOT_BELOW 5DOUBLE_GRAVE 5GRAVE 5HOOK_ABOVE 5INVERTED_BREVE
    5MACRON 5OGONEK 5RETROFLEX_HOOK 5STROKE 6AND_RETROFLEX_HOOK 5TILDE 6BELOW 3INSULAR_D 4F 4G 4R 4S
    4T 3INVERTED_ALPHA 4OE 3IOTA 4WITH_STROKE 3IOTIFIED_E 3IS 3J 4WITH_CARON 5CIRCUMFLEX
    5CROSSED-TAIL 5STROKE 3K 4WITH_ACUTE 5CARON 5CEDILLA 5DESCENDER 5DIAGONAL_STROKE 5DOT_BELOW
    5HOOK 5LINE_BELOW 5OBLIQUE_STROKE 5PALATAL_HOOK 5STROKE 6AND_DIAGONAL_STROKE 3KRA 3L 4WITH_ACUTE
    5BAR 5BELT 6AND_PALATAL_HOOK 5CARON 5CEDILLA 5CIRCUMFLEX_BELOW 5CURL 5DOT_BELOW 7AND_MACRON
    5DOUBLE_BAR 6MIDDLE_TILDE 5FISHHOOK 5HIGH_STROKE 5INVERTED_LAZY_S 5LINE_BELOW 5MIDDLE_DOT 6RING
    6TILDE 5PALATAL_HOOK 5RETROFLEX_HOOK 7AND_BELT 5STROKE 3LAMBDA_WITH_STROKE 3LENIS_F 3LEZH
    4WITH_RETROFLEX_HOOK 3LJ 3LONG_S 5WITH_DIAGONAL_STROKE 6DOT_ABOVE 6HIGH_STROKE 3LS_DIGRAPH 3LUM
    3LZ_DIGRAPH 3M 4WITH_ACUTE 5CROSSED-TAIL 5DOT_ABOVE 6BELOW 5HOOK 5MIDDLE_TILDE 5PALATAL_HOOK
    3MIDDLE_SCOTS_S 3MIDDLE-WELSH_LL 4V 3MUM 3N 4PRECEDED_BY_APOSTROPHE 4WITH_ACUTE 5CARON 5CEDILLA
    5CIRCUMFLEX_BELOW 5CROSSED-TAIL 5CURL 5DESCENDER 5DOT_ABOVE 6BELOW 5GRAVE 5LEFT_HOOK 5LINE_BELOW
    5LONG_RIGHT_LEG 5MIDDLE_TILDE 5OBLIQUE_STROKE 5PALATAL_HOOK 5RETROFLEX_HOOK 5TILDE 3NJ 3NUM 3O
    4WITH_ACUTE 5BREVE 5CARON 5CIRCUMFLEX 6AND_ACUTE 7DOT_BELOW 7GRAVE 7HOOK_ABOVE 7TILDE 5DIAERESIS
    6AND_MACRON 5DOT_ABOVE 7AND_MACRON 6BELOW 5DOUBLE_ACUTE 6GRAVE 5GRAVE 5HOOK_ABOVE 5HORN
    6AND_ACUTE 7DOT_BELOW 7GRAVE 7HOOK_ABOVE 7TILDE 5INVERTED_BREVE 5LONG_STROKE_OVERLAY 5LOOP
    5LOW_RING_INSIDE 5MACRON 6AND_ACUTE 7GRAVE 5OGONEK 6AND_MACRON 5RETROFLEX_HOOK 5STROKE
    6AND_ACUTE 5TILDE 6AND_ACUTE 7DIAERESIS 7MACRON 3OI 3OLD_POLISH_O 3OMEGA 3OO 3OPEN_E
    5WITH_RETROFLEX_HOOK 4O 5WITH_RETROFLEX_HOOK 6STROKE 4OE 3OU 3P 4WITH_ACUTE 5DOT_ABOVE 5FLOURISH
    5HOOK 5MIDDLE_TILDE 5PALATAL_HOOK 5SQUIRREL_TAIL 5STROKE 6THROUGH_DESCENDER 3PHI 3Q
    4WITH_DIAGONAL_STROKE 5HOOK 6TAIL 5STROKE_THROUGH_DESCENDER 3QP_DIGRAPH 3R 4ROTUNDA 4WITH_ACUTE
    5CARON 5CEDILLA 5CROSSED-TAIL 5DOT_ABOVE 6BELOW 7AND_MACRON 5DOUBLE_GRAVE 5FISHHOOK
    6AND_MIDDLE_TILDE 7PALATAL_HOOK 5INVERTED_BREVE 5LINE_BELOW 5LONG_LEG 5MIDDLE_TILDE
    5OBLIQUE_STROKE 5PALATAL_HOOK 5STROKE 5TAIL 4WITHOUT_HANDLE 3RAMS_HORN 3REVERSED_C 5WITH_DOT 4E
    4ENG 4HALF_H 4K 4OPEN_E 6WITH_HOOK 7RETROFLEX_HOOK 4R_WITH_FISHHOOK 4SCRIPT_G 3RUM 4ROTUNDA 3S
    4WITH_ACUTE 6AND_DOT_ABOVE 5CARON 6AND_DOT_ABOVE 5CEDILLA 5CIRCUMFLEX 5COMMA_BELOW 5CURL
    5DOT_ABOVE 6BELOW 7AND_DOT_ABOVE 5HOOK 5MIDDLE_TILDE 5OBLIQUE_STROKE 5PALATAL_HOOK
    5SHORT_STROKE_OVERLAY 5SWASH_TAIL 3SAKHA_YAT 3SALTILLO 3SCHWA 4WITH_HOOK 5RETROFLEX_HOOK
    3SCRIPT_G 5WITH_CROSSED-TAIL 4R 5WITH_RING 3SHARP_S 3SIDEWAYS_DIAERESIZED_U 4O 5WITH_STROKE
    4OPEN_O 4TURNED_M 4U 3SIGMOID_S 3SQUAT_REVERSED_ESH 3STIRRUP_R 3T 4WITH_CARON 5CEDILLA
    5CIRCUMFLEX_BELOW 5COMMA_BELOW 5CURL 5DIAERESIS 5DIAGONAL_STROKE 5DOT_ABOVE 6BELOW 5HOOK
    6AND_RETROFLEX_HOOK 5LINE_BELOW 5MIDDLE_TILDE 5PALATAL_HOOK 5RETROFLEX_HOOK 5STROKE
    3TAILLESS_PHI 3TC_DIGRAPH_WITH_CURL 3TESH_DIGRAPH 5WITH_PALATAL_HOOK 6RETROFLEX_HOOK
    3TH_WITH_STRIKETHROUGH 3THORN 4WITH_STROKE 6THROUGH_DESCENDER 3TONE_FIVE 4SIX 4TWO 3TOP_HALF_O
    3TRESILLO 3TS_DIGRAPH 5WITH_RETROFLEX_HOOK 3TUM 3TURNED_A 4AE 4ALPHA 4DELTA 4E 4G 4H
    5WITH_FISHHOOK 7AND_TAIL 4I 4INSULAR_G 4K 4L 4M 5WITH_LONG_LEG 4O_OPEN-O 6WITH_STROKE 4OE
    5WITH_HORIZONTAL_STROKE 6STROKE 4OPEN_E 4R 5WITH_HOOK 6LONG_LEG 8AND_RETROFLEX_HOOK
    6MIDDLE_TILDE 6PALATAL_HOOK 6TAIL 4T 5WITH_CURL 4UI 4V 4W 4Y 5WITH_BELT 3TZ 3U 4BAR
    5WITH_SHORT_RIGHT_LEG 4WITH_ACUTE 5BREVE 5CARON 5CIRCUMFLEX 6BELOW 5DIAERESIS 6AND_ACUTE 7CARON
    7GRAVE 7MACRON 6BELOW 5DOT_BELOW 5DOUBLE_ACUTE 6GRAVE 5GRAVE 5HOOK_ABOVE 5HORN 6AND_ACUTE
    7DOT_BELOW 7GRAVE 7HOOK_ABOVE 7TILDE 5INVERTED_BREVE 5LEFT_HOOK 5MACRON 6AND_DIAERESIS 5OGONEK
    5RETROFLEX_HOOK 5RING_ABOVE 5SHORT_RIGHT_LEG 5STROKE 5TILDE 6AND_ACUTE 6BELOW 3UE 3UI 3UM 3UO
    3UPSILON 4WITH_STROKE 3V 4WITH_CURL 5DIAGONAL_STROKE 5DOT_BELOW 5HOOK 5PALATAL_HOOK 5RIGHT_HOOK
    5TILDE 3VEND 3VISIGOTHIC_Z 3VOLAPUK_AE 4OE 4UE 3VY 3W 4WITH_ACUTE 5CIRCUMFLEX 5DIAERESIS
    5DOT_ABOVE 6BELOW 5GRAVE 5HOOK 5RING_ABOVE 3X 4WITH_DIAERESIS 5DOT_ABOVE 5LONG_LEFT_LEG
    8AND_LOW_RIGHT_RING 8WITH_SERIF 5LOW_RIGHT_RING 5PALATAL_HOOK 3Y 4WITH_ACUTE 5CIRCUMFLEX
    5DIAERESIS 5DOT_ABOVE 6BELOW 5GRAVE 5HOOK 6ABOVE 5LOOP 5MACRON 5RING_ABOVE 5SHORT_RIGHT_LEG
    5STROKE 5TILDE 3YOGH 3Z 4WITH_ACUTE 5CARON 5CIRCUMFLEX 5CURL 5DESCENDER 5DOT_ABOVE 6BELOW 5HOOK
    5LINE_BELOW 5MIDDLE_TILDE 5PALATAL_HOOK 5RETROFLEX_HOOK 5STROKE 5SWASH_TAIL 2LIGATURE_FF 3FFI
    3FFL 3FI 3FL 3IJ 3LONG_S_T 3OE 3ST 1SUBSCRIPT_SMALL_LETTER_A 4E 4H 4I 4J 4K 4L 4M 4N 4O 4P 4R 4S
    4SCHWA 4T 4U 4V 4X 0LEAF_FLUTTERING_IN_WIND 0LEAFY_GREEN 0LEDGER
    0LEFT_AND_LOWER_AND_RIGHT_TRIANGULAR_THREE_QUARTERS_BLOCK 3ONE_EIGHTH_BLOCK
    2RIGHT_DOUBLE_TURNSTILE 3TACK 3TRIANGULAR_HALF_BLOCK
    2UPPER_AND_RIGHT_TRIANGULAR_THREE_QUARTERS_BLOCK 3ONE_EIGHTH_BLOCK 1ANGER_BUBBLE 1ANGLE_BRACKET
    3WITH_DOT 1ARC_LESS-THAN_BRACKET 1ARROW_WITH_CIRCLED_PLUS 3SMALL_CIRCLE
    1BARB_DOWN_RIGHT_BARB_DOWN_HARPOON 5UP_HARPOON 2UP_RIGHT_BARB_DOWN_HARPOON 5UP_HARPOON
    1BLACK_LENTICULAR_BRACKET 2TORTOISE_SHELL_BRACKET 1CEILING 1CLOSED_ENTRY 1CORNER_BRACKET
    1CURLY_BRACKET 3LOWER_HOOK 3MIDDLE_PIECE 3UPPER_HOOK 1DOTTED_SUBSTITUTION_BRACKET
    1DOUBLE_ANGLE_BRACKET 2PARENTHESIS 2QUOTATION_MARK 2WIGGLY_FENCE 1FISH_TAIL 1FIVE_EIGHTHS_BLOCK
    1FLOOR 1HALF_BLACK_CIRCLE 3STAR 2BLOCK 2CIRCLE 3WITH_DOT 4FOUR_DOTS 4THREE_DOTS 4TWO_DOTS
    2FOLDER 2INVERSE_MEDIUM_SHADE_AND_RIGHT_HALF_BLOCK 2MEDIUM_SHADE 2RUNNING_MAN
    1HAND_TELEPHONE_RECEIVER 1LOW_PARAPHRASE_BRACKET 1LUGGAGE 1MULTIMAP
    1NORMAL_FACTOR_SEMIDIRECT_PRODUCT 1ONE_EIGHTH_BLOCK 2QUARTER_BLOCK 1OUTER_JOIN 1PARENTHESIS
    2EXTENSION 2LOWER_HOOK 2UPPER_HOOK 1RAISED_OMISSION_BRACKET 1RIGHT_ARROW 3THROUGH_SMALL_CIRCLE
    3WITH_DOUBLE_VERTICAL_STROKE 4STROKE 4VERTICAL_STROKE 2BLACK_ARROW 2DOUBLE_ARROW 4WITH_STROKE
    5VERTICAL_STROKE 2OPEN-HEADED_ARROW 2SANS-SERIF_ARROW 2TRIANGLE-HEADED_ARROW 2WAVE_ARROW
    2WHITE_ARROW 1S-SHAPED_BAG_DELIMITER 1SEMIDIRECT_PRODUCT 1SEVEN_EIGHTHS_BLOCK
    1SIDEWAYS_U_BRACKET 1SINGLE_QUOTATION_MARK 1SPEECH_BUBBLE 1SQUARE_BRACKET 3EXTENSION
    3LOWER_CORNER 3UPPER_CORNER 3WITH_DOUBLE_STROKE 4QUILL 4STROKE 4TICK_IN_BOTTOM_CORNER
    6TOP_CORNER 4UNDERBAR 1SUBSTITUTION_BRACKET 1TACK 1THIRD_WHITE_RIGHT_POINTING_INDEX
    1THOUGHT_BUBBLE 1THREE_EIGHTHS_BLOCK 2QUARTERS_BLOCK 1TORTOISE_SHELL_BRACKET
    1TRANSPOSITION_BRACKET 1TRIANGLE_BESIDE_VERTICAL_BAR 1TRIANGULAR_ONE_QUARTER_BLOCK
    1VERTICAL_BAR_WITH_QUILL 2BOX_LINE 1WHITE_CORNER_BRACKET 2CURLY_BRACKET 2LENTICULAR_BRACKET
    2PARENTHESIS 2SQUARE_BRACKET 2TORTOISE_SHELL_BRACKET 1WIGGLY_FENCE 1WRITING_HAND
    0LEFT-FACING_ARMENIAN_ETERNITY_SIGN 1FIST 1SVASTI_SIGN 3WITH_DOTS
    0LEFT-HANDED_INTERLACED_PENTAGRAM 0LEFT-POINTING_ANGLE_BRACKET 1CURVED_ANGLE_BRACKET
    1DOUBLE_ANGLE_QUOTATION_MARK 1MAGNIFYING_GLASS 0LEFT-SHADED_WHITE_RIGHTWARDS_ARROW
    0LEFT-SIDE_ARC_ANTICLOCKWISE_ARROW 0LEFT-TO-RIGHT_EMBEDDING 1ISOLATE 1MARK 1OVERRIDE
    0LEFTWARDS_ARROW 2ABOVE_ALMOST_EQUAL_TO 3REVERSE_ALMOST_EQUAL_TO 4TILDE_OPERATOR
    3SHORT_RIGHTWARDS_ARROW 3TILDE_OPERATOR 2AND_UPPER_AND_LOWER_ONE_EIGHTH_BLOCK 2FROM_BAR
    4TO_BLACK_DIAMOND 2OVER_RIGHTWARDS_ARROW 2THROUGH_LESS-THAN 3SUBSET 3X 2TO_BAR
    4OVER_RIGHTWARDS_ARROW_TO_BAR 3BLACK_DIAMOND 2WITH_DOTTED_STEM 3DOUBLE_VERTICAL_STROKE
    3EQUILATERAL_ARROWHEAD 3HOOK 3LARGE_TRIANGLE_ARROWHEAD 3LOOP 3MEDIUM_TRIANGLE_ARROWHEAD
    3NOTCHED_TAIL 3PLUS_BELOW 3SMALL_EQUILATERAL_ARROWHEAD 4TRIANGLE_ARROWHEAD 3STROKE 3TAIL
    4WITH_DOUBLE_VERTICAL_STROKE 5VERTICAL_STROKE 3TIP_DOWNWARDS 4UPWARDS 3VERTICAL_STROKE
    1ARROW-TAIL 1BACK-TILTED_SHADOWED_WHITE_ARROW 1BLACK_ARROW 2CIRCLED_WHITE_ARROW
    1BOTTOM-SHADED_WHITE_ARROW 1COMPRESSED_ARROW 1DASHED_ARROW 1DOUBLE_ARROW 3FROM_BAR 3WITH_STROKE
    4VERTICAL_STROKE 2ARROW-TAIL 2DASH_ARROW 1FINGER-POST_ARROW 1FRONT-TILTED_SHADOWED_WHITE_ARROW
    1HAND 1HARPOON_OVER_RIGHTWARDS_HARPOON 2WITH_BARB_DOWN_ABOVE_RIGHTWARDS_HARPOON_WITH_BARB_DOWN
    5BELOW_LONG_DASH 5FROM_BAR 5TO_BAR 4DOWNWARDS 4UP_ABOVE_LEFTWARDS_HARPOON_WITH_BARB_DOWN
    6LONG_DASH 6RIGHTWARDS_HARPOON_WITH_BARB_UP 5FROM_BAR 5TO_BAR 4UPWARDS 1HEAVY_ARROW
    2COMPRESSED_ARROW 1LEFT-SHADED_WHITE_ARROW 1OPEN-HEADED_ARROW 1PAIRED_ARROWS 1QUADRUPLE_ARROW
    1RIGHT-SHADED_WHITE_ARROW 1ROCKET 1SANS-SERIF_ARROW 1SQUARED_ARROW 1SQUIGGLE_ARROW
    1TOP_SHADED_WHITE_ARROW 1TRIANGLE_ARROWHEAD 1TRIANGLE-HEADED_ARROW
    3OVER_RIGHTWARDS_TRIANGLE-HEADED_ARROW 3TO_BAR 3WITH_BOLD_SHAFT 4DOUBLE_HORIZONTAL_STROKE
    5VERTICAL_STROKE 4HEAVY_SHAFT 4LONG_TIP_DOWNWARDS 6UPWARDS 4MEDIUM_SHAFT 4NARROW_SHAFT
    4VERY_HEAVY_SHAFT 2DASHED_ARROW 2PAIRED_ARROWS 1TRIPLE_ARROW 2DASH_ARROW 1TWO_HEADED_ARROW
    1TWO-HEADED_ARROW_FROM_BAR 3WITH_DOUBLE_VERTICAL_STROKE 4TAIL 5WITH_DOUBLE_VERTICAL_STROKE
    6VERTICAL_STROKE 4TRIANGLE_ARROWHEADS 4VERTICAL_STROKE 2TRIPLE_DASH_ARROW 1WAVE_ARROW
    1WHITE_ARROW 3WITHIN_TRIANGLE_ARROWHEAD 0LEG 0LEMON 0LEO 0LEOPARD 0LEPCHA_CONSONANT_SIGN_K 3KANG
    3L 3M 3N 3NYIN-DO 3P 3R 3T 1DIGIT_EIGHT 2FIVE 2FOUR 2NINE 2ONE 2SEVEN 2SIX 2THREE 2TWO 2ZERO
    1LETTER_A 2BA 2BLA 2CA 2CHA 2DA 2DDA 2DZA 2FA 2FLA 2GA 2GLA 2HA 2HLA 2JA 2KA 2KHA 2KLA 2LA 2MA
    2MLA 2NA 2NGA 2NYA 2PA 2PHA 2PLA 2RA 2SA 2SHA 2TA 2THA 2TSA 2TSHA 2TTA 2TTHA 2VA 2WA 2YA
    1PUNCTUATION_CER-WA 2NYET_THYOOM_TA-ROL 2TA-ROL 2TSHOOK 3CER-WA 1SIGN_NUKTA 2RAN
    1SUBJOINED_LETTER_RA 3YA 1VOWEL_SIGN_AA 3E 3I 3O 3OO 3U 3UU
    0LESS-THAN_ABOVE_DOUBLE-LINE_EQUAL_ABOVE_GREATER-THAN 2GREATER-THAN_ABOVE_DOUBLE-LINE_EQUAL
    2LEFTWARDS_ARROW 2SIMILAR_ABOVE_GREATER-THAN 3OR_EQUAL
    2SLANTED_EQUAL_ABOVE_GREATER-THAN_ABOVE_SLANTED_EQUAL 1AND_NOT_APPROXIMATE
    2SINGLE-LINE_NOT_EQUAL_TO 1BUT_NOT_EQUAL_TO 3EQUIVALENT_TO 1CLOSED_BY_CURVE 4ABOVE_SLANTED_EQUAL
    1EQUAL_TO_OR_GREATER-THAN 1OR_APPROXIMATE 2EQUAL_TO 2EQUIVALENT_TO 2GREATER-THAN
    2SLANTED_EQUAL_TO 5WITH_DOT_ABOVE 8RIGHT 7INSIDE 1OVER_EQUAL_TO 1SIGN 1WITH_CIRCLE_INSIDE 2DOT
    2QUESTION_MARK_ABOVE 0LEVEL_SLIDER 0LF 0LIBRA 0LIGATURE_OPEN_ET_ORNAMENT 0LIGHT_CHECK_MARK
    1EIGHT_SPOKED_ASTERISK 1FIVE_POINTED_BLACK_STAR 2SPOKED_ASTERISK 1FOUR_POINTED_BLACK_CUSP 4STAR
    1GREEK_CROSS 1LEFT_TORTOISE_SHELL_BRACKET_ORNAMENT 1RAIL 1RIGHT_TORTOISE_SHELL_BRACKET_ORNAMENT
    1SALTIRE 1SHADE 1SIX_SPOKED_ASTERISK 1THREE_POINTED_BLACK_STAR 1TWELVE_POINTED_BLACK_STAR
    1VERTICAL_BAR 1WHITE_SQUARE 0LIGHTNING 1MOOD 2BUBBLE 0LIMBU_DIGIT_EIGHT 2FIVE 2FOUR 2NINE 2ONE
    2SEVEN 2SIX 2THREE 2TWO 2ZERO 1EXCLAMATION_MARK 1LETTER_BA 2BHA 2CA 2CHA 2DA 2DHA 2GA 2GHA 2GYAN
    2HA 2JA 2JHA 2KA 2KHA 2LA 2MA 2NA 2NGA 2PA 2PHA 2RA 2SA 2SHA 2SSA 2TA 2THA 2TRA 2WA 2YA 2YAN
    1QUESTION_MARK 1SIGN_KEMPHRENG 2LOO 2MUKPHRENG 2SA-I 1SMALL_LETTER_ANUSVARA 3KA 3LA 3MA 3NA 3NGA
    3PA 3RA 3TA 1SUBJOINED_LETTER_RA 3WA 3YA 1VOWEL_SIGN_A 3AI 3AU 3E 3EE 3I 3O 3OO 3U
    1VOWEL-CARRIER_LETTER 0LIMITED_LIABILITY_SIGN 0LINE_FEED 1INTEGRATION_NOT_INCLUDING_THE_POLE
    2WITH_RECTANGULAR_PATH_AROUND_POLE 3SEMICIRCULAR_PATH_AROUND_POLE 1SEPARATOR 1TABULATION 2SET
    0LINEAR_A_SIGN_A028B 3A100-102 3A120B 3A131C 3A301 3A302 3A303 3A304 3A305 3A306 3A307 3A308
    3A309A 3A309B 3A309C 3A310 3A311 3A312 3A313A 3A313B 3A313C 3A314 3A315 3A316 3A317 3A318 3A319
    3A320 3A321 3A322 3A323 3A324 3A325 3A326 3A327 3A328 3A329 3A330 3A331 3A332 3A333 3A334 3A335
    3A336 3A337 3A338 3A339 3A340 3A341 3A342 3A343 3A344 3A345 3A346 3A347 3A348 3A349 3A350 3A351
    3A352 3A353 3A354 3A355 3A356 3A357 3A358 3A359 3A360 3A361 3A362 3A363 3A364 3A365 3A366 3A367
    3A368 3A369 3A370 3A371 3A400-VAS 3A401-VAS 3A402-VAS 3A403-VAS 3A404-VAS 3A405-VAS 3A406-VAS
    3A407-VAS 3A408-VAS 3A409-VAS 3A410-VAS 3A411-VAS 3A412-VAS 3A413-VAS 3A414-VAS 3A415-VAS
    3A416-VAS 3A417-VAS 3A418-VAS 3A501 3A502 3A503 3A504 3A505 3A506 3A508 3A509 3A510 3A511 3A512
    3A513 3A515 3A516 3A520 3A521 3A523 3A524 3A525 3A526 3A527 3A528 3A529 3A530 3A531 3A532 3A534
    3A535 3A536 3A537 3A538 3A539 3A540 3A541 3A542 3A545 3A547 3A548 3A549 3A550 3A551 3A552 3A553
    3A554 3A555 3A556 3A557 3A559 3A563 3A564 3A565 3A566 3A568 3A569 3A570 3A571 3A572 3A573 3A574
    3A575 3A576 3A577 3A578 3A579 3A580 3A581 3A582 3A583 3A584 3A585 3A586 3A587 3A588 3A589 3A591
    3A592 3A594 3A595 3A596 3A598 3A600 3A601 3A602 3A603 3A604 3A606 3A608 3A609 3A610 3A611 3A612
    3A613 3A614 3A615 3A616 3A617 3A618 3A619 3A620 3A621 3A622 3A623 3A624 3A626 3A627 3A628 3A629
    3A634 3A637 3A638 3A640 3A642 3A643 3A644 3A645 3A646 3A648 3A649 3A651 3A652 3A653 3A654 3A655
    3A656 3A657 3A658 3A659 3A660 3A661 3A662 3A663 3A664 3A701_A 3A702_B 3A703_D 3A704_E 3A705_F
    3A706_H 3A707_J 3A708_K 3A709_L 3A709-2_L2 3A709-3_L3 3A709-4_L4 3A709-6_L6 3A710_W 3A711_X
    3A712_Y 3A713_OMEGA 3A714_ABB 3A715_BB 3A717_DD 3A726_EYYY 3A732_JE 3A800 3A801 3A802 3A803
    3A804 3A805 3A806 3A807 3AB001 3AB002 3AB003 3AB004 3AB005 3AB006 3AB007 3AB008 3AB009 3AB010
    3AB011 3AB013 3AB016 3AB017 3AB020 3AB021 3AB021F 3AB021M 3AB022 3AB022F 3AB022M 3AB023 3AB023M
    3AB024 3AB026 3AB027 3AB028 3AB029 3AB030 3AB031 3AB034 3AB037 3AB038 3AB039 3AB040 3AB041
    3AB044 3AB045 3AB046 3AB047 3AB048 3AB049 3AB050 3AB051 3AB053 3AB054 3AB055 3AB056 3AB057
    3AB058 3AB059 3AB060 3AB061 3AB065 3AB066 3AB067 3AB069 3AB070 3AB073 3AB074 3AB076 3AB077
    3AB078 3AB079 3AB080 3AB081 3AB082 3AB085 3AB086 3AB087 3AB118 3AB120 3AB122 3AB123 3AB131A
    3AB131B 3AB164 3AB171 3AB180 3AB188 3AB191 1B_IDEOGRAM_B100_MAN 3B102_WOMAN 3B104_DEER
    3B105_EQUID 3B105F_MARE 3B105M_STALLION 3B106F_EWE 3B106M_RAM 3B107F_SHE-GOAT 3B107M_HE-GOAT
    3B108F_SOW 3B108M_BOAR 3B109F_COW 3B109M_BULL 3B120_WHEAT 3B121_BARLEY 3B122_OLIVE 3B123_SPICE
    3B125_CYPERUS 3B130_OIL 3B131_WINE 3B132 3B140_BRONZE 3B141_GOLD 3B142 3B145_WOOL 3B146 3B150
    3B151_HORN 3B152 3B153 3B154 3B157 3B158 3B159_CLOTH 3B160 3B161 3B162_GARMENT 3B163_ARMOUR
    3B164 3B165 3B166 3B167 3B168 3B169 3B170 3B171 3B172 3B173_MONTH 3B174 3B176_TREE 3B177 3B178
    3B179 3B180 3B181 3B182 3B183 3B184 3B185 3B189 3B190 3B191_HELMET 3B220_FOOTSTOOL 3B225_BATHTUB
    3B230_SPEAR 3B231_ARROW 3B232 3B233_SWORD 3B234 3B236 3B240_WHEELED_CHARIOT 3B241_CHARIOT
    3B242_CHARIOT_FRAME 3B243_WHEEL 3B245 3B246 3B248 3B249 3B251 3B252 3B253 3B254_DART 3B255 3B256
    3B257 3B258 3B259 3VESSEL_B155 4B200 4B201 4B202 4B203 4B204 4B205 4B206 4B207 4B208 4B209 4B210
    4B211 4B212 4B213 4B214 4B215 4B216 4B217 4B218 4B219 4B221 4B222 4B226 4B227 4B228 4B229 4B250
    4B305 2MONOGRAM_B127_KAPO 3B128_KANAKO 3B133_AREPA 3B135_MERI 3B156_TURO2 3B247_DIPTE
    2SYLLABLE_B001_DA 3B002_RO 3B003_PA 3B004_TE 3B005_TO 3B006_NA 3B007_DI 3B008_A 3B009_SE 3B010_U
    3B011_PO 3B012_SO 3B013_ME 3B014_DO 3B015_MO 3B016_QA 3B017_ZA 3B020_ZO 3B021_QI 3B023_MU
    3B024_NE 3B025_A2 3B026_RU 3B027_RE 3B028_I 3B029_PU2 3B030_NI 3B031_SA 3B032_QO 3B033_RA3
    3B036_JO 3B037_TI 3B038_E 3B039_PI 3B040_WI 3B041_SI 3B042_WO 3B043_A3 3B044_KE 3B045_DE
    3B046_JE 3B048_NWA 3B050_PU 3B051_DU 3B052_NO 3B053_RI 3B054_WA 3B055_NU 3B057_JA 3B058_SU
    3B059_TA 3B060_RA 3B061_O 3B062_PTE 3B065_JU 3B066_TA2 3B067_KI 3B068_RO2 3B069_TU 3B070_KO
    3B071_DWE 3B072_PE 3B073_MI 3B074_ZE 3B075_WE 3B076_RA2 3B077_KA 3B078_QE 3B080_MA 3B081_KU
    3B085_AU 3B087_TWE 3B090_DWO 3B091_TWO 2SYMBOL_B018 3B019 3B022 3B034 3B047 3B049 3B056 3B063
    3B064 3B079 3B082 3B083 3B086 3B089 0LINK_SYMBOL 0LINKED_PAPERCLIPS 0LION_FACE 0LIPS 0LIPSTICK
    0LIRA_SIGN 0LISU_LETTER_A 2AE 2BA 2CA 2CHA 2DA 2DZA 2E 2EU 2FA 2GA 2GHA 2HA 2HHA 2I 2JA 2KA 2KHA
    2LA 2MA 2NA 2NGA 2O 2OE 2PA 2PHA 2SA 2SHA 2TA 2THA 2TONE_MYA_BO 4CYA 4JEU 4NA 4TI 3NA_PO 2TSA
    2TSHA 2U 2UE 2UH 2WA 2XA 2YA 2YHA 2ZA 2ZHA 1PUNCTUATION_COMMA 2FULL_STOP 0LIVRE_TOURNOIS_SIGN
    0LIZARD 0LLAMA 0LOBSTER 0LOCK 1WITH_INK_PEN 0LOCKING-SHIFT_ONE 1ZERO 0LOGICAL_AND
    2WITH_DOT_ABOVE 3DOUBLE_OVERBAR 4UNDERBAR 3HORIZONTAL_DASH 3MIDDLE_STEM 3UNDERBAR 1OR
    2OVERLAPPING_LOGICAL_AND 2WITH_DOT_ABOVE 3DOUBLE_OVERBAR 4UNDERBAR 3HORIZONTAL_DASH 3MIDDLE_STEM
    0LOLLIPOP 0LONG_DASH_FROM_LEFT_MEMBER_OF_DOUBLE_VERTICAL 1DIVISION 1DRUM 1LEFT_RIGHT_ARROW
    3DOUBLE_ARROW 2TACK 1LEFTWARDS_ARROW 3FROM_BAR 2DOUBLE_ARROW 4FROM_BAR 2SQUIGGLE_ARROW
    1RIGHT_TACK 1RIGHTWARDS_ARROW 3FROM_BAR 2DOUBLE_ARROW 4FROM_BAR 2SQUIGGLE_ARROW 0LOTION_BOTTLE
    0LOTUS 0LOUDLY_CRYING_FACE 0LOVE_HOTEL 1LETTER 0LOW_ASTERISK 1BATTERY 1BRIGHTNESS_SYMBOL
    1DOUBLE_PRIME_QUOTATION_MARK 1KAVYKA 2WITH_DOT 1LINE 0LOWER_BLADE_SCISSORS 1FIVE_EIGHTHS_BLOCK
    1HALF_BLOCK 2CIRCLE 2INVERSE_WHITE_CIRCLE 2MEDIUM_SHADE 1LEFT_BALLPOINT_PEN
    2BLOCK_DIAGONAL_LOWER_MIDDLE_LEFT_TO_LOWER_CENTRE 9RIGHT 4UPPER_CENTRE_TO_LOWER_MIDDLE_RIGHT
    8RIGHT 7UPPER_MIDDLE_RIGHT 5LEFT_TO_LOWER_CENTRE 8MIDDLE_RIGHT 7UPPER_MIDDLE_RIGHT
    5MIDDLE_LEFT_TO_LOWER_CENTRE 9MIDDLE_RIGHT 9RIGHT 2CRAYON 2FOUNTAIN_PEN 2PAINTBRUSH 2PENCIL
    2QUADRANT_CIRCULAR_ARC 2SEMICIRCULAR_ANTICLOCKWISE_ARROW 2TRIANGLE 2TRIANGULAR_MEDIUM_SHADE
    1ONE_EIGHTH_BLOCK 2QUARTER_BLOCK 1RIGHT_BLOCK_DIAGONAL_LOWER_CENTRE_TO_LOWER_MIDDLE_RIGHT
    7UPPER_MIDDLE_RIGHT 8RIGHT 5LEFT_TO_LOWER_MIDDLE_RIGHT 7UPPER_CENTRE 8MIDDLE_RIGHT
    5MIDDLE_LEFT_TO_UPPER_CENTRE 9MIDDLE_RIGHT 9RIGHT 4UPPER_MIDDLE_LEFT_TO_UPPER_CENTRE 9RIGHT
    2CORNER_WITH_DOT 2DROP-SHADOWED_WHITE_SQUARE 2PENCIL 2QUADRANT_CIRCULAR_ARC
    2SEMICIRCULAR_CLOCKWISE_ARROW 2SHADOWED_WHITE_CIRCLE 4SQUARE 2TRIANGLE 2TRIANGULAR_MEDIUM_SHADE
    1SEVEN_EIGHTHS_BLOCK 1THREE_EIGHTHS_BLOCK 2QUARTERS_BLOCK 1TRIANGULAR_ONE_QUARTER_BLOCK 0LOZENGE
    1DIVIDED_BY_HORIZONTAL_RULE 0LRE 0LRI 0LRM 0LRO 0LUGGAGE 0LUNGS 0LYCIAN_LETTER_A 2AN 2B 2BH 2D
    2E 2EN 2G 2H 2I 2J 2K 2KK 2L 2M 2MM 2N 2NN 2P 2Q 2R 2S 2T 2TH 2TT 2U 2W 2X 2Z 0LYDIAN_LETTER_A
    2AN 2B 2C 2D 2E 2EN 2F 2G 2I 2K 2L 2LY 2M 2N 2NN 2O 2Q 2R 2S 2SS 2T 2TT 2U 2V 2Y
    1TRIANGULAR_MARK 0LYING_FACE
    "),
    ('M', "
    0MACRON 0MAGE 0MAGIC_WAND 0MAGNET 0MAHAJANI_ABBREVIATION_SIGN 1LETTER_A 2BA 2BHA 2CA 2CHA 2DA
    2DDA 2DDHA 2DHA 2E 2GA 2GHA 2HA 2I 2JA 2JHA 2KA 2KHA 2LA 2MA 2NA 2NNA 2NYA 2O 2PA 2PHA 2RA 2RRA
    2SA 2TA 2THA 2TTA 2TTHA 2U 2VA 1LIGATURE_SHRI 1SECTION_MARK 1SIGN_NUKTA 0MAHJONG_TILE_AUTUMN
    2BACK 2BAMBOO 2CHRYSANTHEMUM 2EAST_WIND 2EIGHT_OF_BAMBOOS 4CHARACTERS 4CIRCLES 2FIVE_OF_BAMBOOS
    4CHARACTERS 4CIRCLES 2FOUR_OF_BAMBOOS 4CHARACTERS 4CIRCLES 2GREEN_DRAGON 2JOKER 2NINE_OF_BAMBOOS
    4CHARACTERS 4CIRCLES 2NORTH_WIND 2ONE_OF_BAMBOOS 4CHARACTERS 4CIRCLES 2ORCHID 2PLUM 2RED_DRAGON
    2SEVEN_OF_BAMBOOS 4CHARACTERS 4CIRCLES 2SIX_OF_BAMBOOS 4CHARACTERS 4CIRCLES 2SOUTH_WIND 2SPRING
    2SUMMER 2THREE_OF_BAMBOOS 4CHARACTERS 4CIRCLES 2TWO_OF_BAMBOOS 4CHARACTERS 4CIRCLES 2WEST_WIND
    2WHITE_DRAGON 2WINTER 0MAKASAR_ANGKA 1END_OF_SECTION 1LETTER_A 2BA 2CA 2DA 2GA 2JA 2KA 2LA 2MA
    2NA 2NGA 2NYA 2PA 2RA 2SA 2TA 2VA 2YA 1PASSIMBANG 1VOWEL_SIGN_E 3I 3O 3U
    0MALAYALAM_AU_LENGTH_MARK 1DATE_MARK 1DIGIT_EIGHT 2FIVE 2FOUR 2NINE 2ONE 2SEVEN 2SIX 2THREE 2TWO
    2ZERO 1FRACTION_ONE_EIGHTH 3FIFTH 3FORTIETH 3HALF 3ONE-HUNDRED-AND-SIXTIETH 3QUARTER 3SIXTEENTH
    3TENTH 3TWENTIETH 2THREE_EIGHTIETHS 3QUARTERS 3SIXTEENTHS 3TWENTIETHS 1LETTER_A 2AA 2AI
    2ARCHAIC_II 2AU 2BA 2BHA 2CA 2CHA 2CHILLU_K 3L 3LL 3LLL 3M 3N 3NN 3RR 3Y 2DA 2DDA 2DDHA 2DHA
    2DOT_REPH 2E 2EE 2GA 2GHA 2HA 2I 2II 2JA 2JHA 2KA 2KHA 2LA 2LLA 2LLLA 2MA 2NA 2NGA 2NNA 2NNNA
    2NYA 2O 2OO 2PA 2PHA 2RA 2RRA 2SA 2SHA 2SSA 2TA 2THA 2TTA 2TTHA 2TTTA 2U 2UU 2VA 2VEDIC_ANUSVARA
    2VOCALIC_L 3LL 3R 3RR 2YA 1NUMBER_ONE_HUNDRED 3THOUSAND 2TEN 1SIGN_ANUSVARA 2AVAGRAHA
    2CANDRABINDU 2CIRCULAR_VIRAMA 2COMBINING_ANUSVARA_ABOVE 2PARA 2VERTICAL_BAR_VIRAMA 2VIRAMA
    2VISARGA 1VOWEL_SIGN_AA 3AI 3AU 3E 3EE 3I 3II 3O 3OO 3U 3UU 3VOCALIC_L 4LL 4R 4RR
    0MALE_AND_FEMALE_SIGN 1SIGN 1WITH_STROKE_AND_MALE_AND_FEMALE_SIGN 3SIGN 0MALTESE_CROSS 0MAMMOTH
    0MAN 1AND_WOMAN_HOLDING_HANDS 1DANCING 1IN_BUSINESS_SUIT_LEVITATING 2TUXEDO 1WITH_GUA_PI_MAO
    2TURBAN 0MANAT_SIGN 0MANDAIC_AFFRICATION_MARK 1GEMINATION_MARK 1LETTER_AB 2AD 2AG 2AH 2AIN 2AK
    2AKSA 2AL 2AM 2AN 2AP 2AQ 2AR 2AS 2ASH 2ASZ 2AT 2ATT 2AZ 2DUSHENNA 2HALQA 2IN 2IT 2KAD 2USHENNA
    1PUNCTUATION 1VOCALIZATION_MARK 0MANGO 0MANICHAEAN_ABBREVIATION_MARK_ABOVE 3BELOW 1LETTER_AAYIN
    2ALEPH 2AYIN 2BETH 2BHETH 2DALETH 2DHAMEDH 2FE 2GHIMEL 2GIMEL 2HE 2HETH 2JAYIN 2JHAYIN 2KAPH
    2KHAPH 2LAMEDH 2MEM 2NUN 2PE 2QHOPH 2QOPH 2RESH 2SADHE 2SAMEKH 2SHIN 2SSHIN 2TAW 2TETH 2THAMEDH
    2WAW 2XAPH 2XOPH 2YODH 2ZAYIN 2ZHAYIN 1NUMBER_FIVE 2ONE 3HUNDRED 2TEN 2TWENTY 1PUNCTUATION_DOT
    3WITHIN_DOT 2DOUBLE_DOT_WITHIN_DOT 2FLEURON 2LINE_FILLER 2STAR 2TWO_DOTS 1SIGN_UD 0MANS_SHOE
    0MANTELPIECE_CLOCK 0MANUAL_WHEELCHAIR 0MAP_SYMBOL_FOR_LIGHTHOUSE 0MAPLE_LEAF 0MARCHEN_HEAD_MARK
    1LETTER_-A 2A 2BA 2CA 2CHA 2DA 2DZA 2GA 2HA 2JA 2KA 2KHA 2LA 2MA 2NA 2NGA 2NYA 2PA 2PHA 2RA 2SA
    2SHA 2TA 2THA 2TSA 2TSHA 2WA 2YA 2ZA 2ZHA 1MARK_SHAD 1SIGN_ANUSVARA 2CANDRABINDU
    1SUBJOINED_LETTER_A 3BA 3CA 3CHA 3DA 3DZA 3GA 3HA 3JA 3KA 3KHA 3LA 3MA 3NA 3NGA 3NYA 3PA 3PHA
    3RA 3SA 3SHA 3TA 3THA 3TSA 3TSHA 3WA 3YA 3ZA 3ZHA 1VOWEL_SIGN_AA 3E 3I 3O 3U 0MARRIAGE_SYMBOL
    0MARTIAL_ARTS_UNIFORM 0MASARAM_GONDI_DIGIT_EIGHT 3FIVE 3FOUR 3NINE 3ONE 3SEVEN 3SIX 3THREE 3TWO
    3ZERO 2LETTER_A 3AA 3AI 3AU 3BA 3BHA 3CA 3CHA 3DA 3DDA 3DDHA 3DHA 3E 3GA 3GHA 3HA 3I 3II 3JA
    3JHA 3JNYA 3KA 3KHA 3KSSA 3LA 3LLA 3MA 3NA 3NGA 3NNA 3NYA 3O 3PA 3PHA 3RA 3SA 3SHA 3SSA 3TA 3THA
    3TRA 3TTA 3TTHA 3U 3UU 3VA 3YA 2RA-KARA 2REPHA 2SIGN_ANUSVARA 3CANDRA 3HALANTA 3NUKTA 3VISARGA
    2VIRAMA 2VOWEL_SIGN_AA 4AI 4AU 4E 4I 4II 4O 4U 4UU 4VOCALIC_R 0MASCULINE_ORDINAL_INDICATOR
    0MASK_WORK_SYMBOL 0MASU_MARK 0MATE_DRINK 0MATHEMATICAL_BOLD_CAPITAL_A 3ALPHA 3B 3BETA 3C 3CHI 3D
    3DELTA 3DIGAMMA 3E 3EPSILON 3ETA 3F 3G 3GAMMA 3H 3I 3IOTA 3J 3K 3KAPPA 3L 3LAMDA 3M 3MU 3N 3NU
    3O 3OMEGA 3OMICRON 3P 3PHI 3PI 3PSI 3Q 3R 3RHO 3S 3SIGMA 3T 3TAU 3THETA 4SYMBOL 3U 3UPSILON 3V
    3W 3X 3XI 3Y 3Z 3ZETA 2DIGIT_EIGHT 3FIVE 3FOUR 3NINE 3ONE 3SEVEN 3SIX 3THREE 3TWO 3ZERO
    2EPSILON_SYMBOL 2FRAKTUR_CAPITAL_A 4B 4C 4D 4E 4F 4G 4H 4I 4J 4K 4L 4M 4N 4O 4P 4Q 4R 4S 4T 4U
    4V 4W 4X 4Y 4Z 3SMALL_A 4B 4C 4D 4E 4F 4G 4H 4I 4J 4K 4L 4M 4N 4O 4P 4Q 4R 4S 4T 4U 4V 4W 4X 4Y
    4Z 2ITALIC_CAPITAL_A 4ALPHA 4B 4BETA 4C 4CHI 4D 4DELTA 4E 4EPSILON 4ETA 4F 4G 4GAMMA 4H 4I 4IOTA
    4J 4K 4KAPPA 4L 4LAMDA 4M 4MU 4N 4NU 4O 4OMEGA 4OMICRON 4P 4PHI 4PI 4PSI 4Q 4R 4RHO 4S 4SIGMA 4T
    4TAU 4THETA 5SYMBOL 4U 4UPSILON 4V 4W 4X 4XI 4Y 4Z 4ZETA 3EPSILON_SYMBOL 3KAPPA_SYMBOL 3NABLA
    3PARTIAL_DIFFERENTIAL 3PHI_SYMBOL 3PI_SYMBOL 3RHO_SYMBOL 3SMALL_A 4ALPHA 4B 4BETA 4C 4CHI 4D
    4DELTA 4E 4EPSILON 4ETA 4F 4FINAL_SIGMA 4G 4GAMMA 4H 4I 4IOTA 4J 4K 4KAPPA 4L 4LAMDA 4M 4MU 4N
    4NU 4O 4OMEGA 4OMICRON 4P 4PHI 4PI 4PSI 4Q 4R 4RHO 4S 4SIGMA 4T 4TAU 4THETA 4U 4UPSILON 4V 4W 4X
    4XI 4Y 4Z 4ZETA 3THETA_SYMBOL 2KAPPA_SYMBOL 2NABLA 2PARTIAL_DIFFERENTIAL 2PHI_SYMBOL 2PI_SYMBOL
    2RHO_SYMBOL 2SCRIPT_CAPITAL_A 4B 4C 4D 4E 4F 4G 4H 4I 4J 4K 4L 4M 4N 4O 4P 4Q 4R 4S 4T 4U 4V 4W
    4X 4Y 4Z 3SMALL_A 4B 4C 4D 4E 4F 4G 4H 4I 4J 4K 4L 4M 4N 4O 4P 4Q 4R 4S 4T 4U 4V 4W 4X 4Y 4Z
    2SMALL_A 3ALPHA 3B 3BETA 3C 3CHI 3D 3DELTA 3DIGAMMA 3E 3EPSILON 3ETA 3F 3FINAL_SIGMA 3G 3GAMMA
    3H 3I 3IOTA 3J 3K 3KAPPA 3L 3LAMDA 3M 3MU 3N 3NU 3O 3OMEGA 3OMICRON 3P 3PHI 3PI 3PSI 3Q 3R 3RHO
    3S 3SIGMA 3T 3TAU 3THETA 3U 3UPSILON 3V 3W 3X 3XI 3Y 3Z 3ZETA 2THETA_SYMBOL
    1DOUBLE-STRUCK_CAPITAL_A 3B 3D 3E 3F 3G 3I 3J 3K 3L 3M 3O 3S 3T 3U 3V 3W 3X 3Y 2DIGIT_EIGHT
    3FIVE 3FOUR 3NINE 3ONE 3SEVEN 3SIX 3THREE 3TWO 3ZERO 2SMALL_A 3B 3C 3D 3E 3F 3G 3H 3I 3J 3K 3L
    3M 3N 3O 3P 3Q 3R 3S 3T 3U 3V 3W 3X 3Y 3Z 1FALLING_DIAGONAL 1FRAKTUR_CAPITAL_A 3B 3D 3E 3F 3G 3J
    3K 3L 3M 3N 3O 3P 3Q 3S 3T 3U 3V 3W 3X 3Y 2SMALL_A 3B 3C 3D 3E 3F 3G 3H 3I 3J 3K 3L 3M 3N 3O 3P
    3Q 3R 3S 3T 3U 3V 3W 3X 3Y 3Z 1ITALIC_CAPITAL_A 3ALPHA 3B 3BETA 3C 3CHI 3D 3DELTA 3E 3EPSILON
    3ETA 3F 3G 3GAMMA 3H 3I 3IOTA 3J 3K 3KAPPA 3L 3LAMDA 3M 3MU 3N 3NU 3O 3OMEGA 3OMICRON 3P 3PHI
    3PI 3PSI 3Q 3R 3RHO 3S 3SIGMA 3T 3TAU 3THETA 4SYMBOL 3U 3UPSILON 3V 3W 3X 3XI 3Y 3Z 3ZETA
    2EPSILON_SYMBOL 2KAPPA_SYMBOL 2NABLA 2PARTIAL_DIFFERENTIAL 2PHI_SYMBOL 2PI_SYMBOL 2RHO_SYMBOL
    2SMALL_A 3ALPHA 3B 3BETA 3C 3CHI 3D 3DELTA 3DOTLESS_I 4J 3E 3EPSILON 3ETA 3F 3FINAL_SIGMA 3G
    3GAMMA 3I 3IOTA 3J 3K 3KAPPA 3L 3LAMDA 3M 3MU 3N 3NU 3O 3OMEGA 3OMICRON 3P 3PHI 3PI 3PSI 3Q 3R
    3RHO 3S 3SIGMA 3T 3TAU 3THETA 3U 3UPSILON 3V 3W 3X 3XI 3Y 3Z 3ZETA 2THETA_SYMBOL
    1LEFT_ANGLE_BRACKET 2DOUBLE_ANGLE_BRACKET 2FLATTENED_PARENTHESIS 2WHITE_SQUARE_BRACKET
    3TORTOISE_SHELL_BRACKET 1MONOSPACE_CAPITAL_A 3B 3C 3D 3E 3F 3G 3H 3I 3J 3K 3L 3M 3N 3O 3P 3Q 3R
    3S 3T 3U 3V 3W 3X 3Y 3Z 2DIGIT_EIGHT 3FIVE 3FOUR 3NINE 3ONE 3SEVEN 3SIX 3THREE 3TWO 3ZERO
    2SMALL_A 3B 3C 3D 3E 3F 3G 3H 3I 3J 3K 3L 3M 3N 3O 3P 3Q 3R 3S 3T 3U 3V 3W 3X 3Y 3Z
    1RIGHT_ANGLE_BRACKET 2DOUBLE_ANGLE_BRACKET 2FLATTENED_PARENTHESIS 2WHITE_SQUARE_BRACKET
    3TORTOISE_SHELL_BRACKET 1RISING_DIAGONAL 1SANS-SERIF_BOLD_CAPITAL_A 4ALPHA 4B 4BETA 4C 4CHI 4D
    4DELTA 4E 4EPSILON 4ETA 4F 4G 4GAMMA 4H 4I 4IOTA 4J 4K 4KAPPA 4L 4LAMDA 4M 4MU 4N 4NU 4O 4OMEGA
    4OMICRON 4P 4PHI 4PI 4PSI 4Q 4R 4RHO 4S 4SIGMA 4T 4TAU 4THETA 5SYMBOL 4U 4UPSILON 4V 4W 4X 4XI
    4Y 4Z 4ZETA 3DIGIT_EIGHT 4FIVE 4FOUR 4NINE 4ONE 4SEVEN 4SIX 4THREE 4TWO 4ZERO 3EPSILON_SYMBOL
    3ITALIC_CAPITAL_A 5ALPHA 5B 5BETA 5C 5CHI 5D 5DELTA 5E 5EPSILON 5ETA 5F 5G 5GAMMA 5H 5I 5IOTA 5J
    5K 5KAPPA 5L 5LAMDA 5M 5MU 5N 5NU 5O 5OMEGA 5OMICRON 5P 5PHI 5PI 5PSI 5Q 5R 5RHO 5S 5SIGMA 5T
    5TAU 5THETA 6SYMBOL 5U 5UPSILON 5V 5W 5X 5XI 5Y 5Z 5ZETA 4EPSILON_SYMBOL 4KAPPA_SYMBOL 4NABLA
    4PARTIAL_DIFFERENTIAL 4PHI_SYMBOL 4PI_SYMBOL 4RHO_SYMBOL 4SMALL_A 5ALPHA 5B 5BETA 5C 5CHI 5D
    5DELTA 5E 5EPSILON 5ETA 5F 5FINAL_SIGMA 5G 5GAMMA 5H 5I 5IOTA 5J 5K 5KAPPA 5L 5LAMDA 5M 5MU 5N
    5NU 5O 5OMEGA 5OMICRON 5P 5PHI 5PI 5PSI 5Q 5R 5RHO 5S 5SIGMA 5T 5TAU 5THETA 5U 5UPSILON 5V 5W 5X
    5XI 5Y 5Z 5ZETA 4THETA_SYMBOL 3KAPPA_SYMBOL 3NABLA 3PARTIAL_DIFFERENTIAL 3PHI_SYMBOL 3PI_SYMBOL
    3RHO_SYMBOL 3SMALL_A 4ALPHA 4B 4BETA 4C 4CHI 4D 4DELTA 4E 4EPSILON 4ETA 4F 4FINAL_SIGMA 4G
    4GAMMA 4H 4I 4IOTA 4J 4K 4KAPPA 4L 4LAMDA 4M 4MU 4N 4NU 4O 4OMEGA 4OMICRON 4P 4PHI 4PI 4PSI 4Q
    4R 4RHO 4S 4SIGMA 4T 4TAU 4THETA 4U 4UPSILON 4V 4W 4X 4XI 4Y 4Z 4ZETA 3THETA_SYMBOL 2CAPITAL_A
    3B 3C 3D 3E 3F 3G 3H 3I 3J 3K 3L 3M 3N 3O 3P 3Q 3R 3S 3T 3U 3V 3W 3X 3Y 3Z 2DIGIT_EIGHT 3FIVE
    3FOUR 3NINE 3ONE 3SEVEN 3SIX 3THREE 3TWO 3ZERO 2ITALIC_CAPITAL_A 4B 4C 4D 4E 4F 4G 4H 4I 4J 4K
    4L 4M 4N 4O 4P 4Q 4R 4S 4T 4U 4V 4W 4X 4Y 4Z 3SMALL_A 4B 4C 4D 4E 4F 4G 4H 4I 4J 4K 4L 4M 4N 4O
    4P 4Q 4R 4S 4T 4U 4V 4W 4X 4Y 4Z 2SMALL_A 3B 3C 3D 3E 3F 3G 3H 3I 3J 3K 3L 3M 3N 3O 3P 3Q 3R 3S
    3T 3U 3V 3W 3X 3Y 3Z 1SCRIPT_CAPITAL_A 3C 3D 3G 3J 3K 3N 3O 3P 3Q 3S 3T 3U 3V 3W 3X 3Y 3Z
    2SMALL_A 3B 3C 3D 3F 3H 3I 3J 3K 3L 3M 3N 3P 3Q 3R 3S 3T 3U 3V 3W 3X 3Y 3Z 0MAXIMIZE
    0MAYAN_NUMERAL_EIGHT 2EIGHTEEN 2ELEVEN 2FIFTEEN 2FIVE 2FOUR 2FOURTEEN 2NINE 2NINETEEN 2ONE
    2SEVEN 2SEVENTEEN 2SIX 2SIXTEEN 2TEN 2THIRTEEN 2THREE 2TWELVE 2TWO 2ZERO 0MEASURED_ANGLE
    2OPENING_LEFT 2WITH_OPEN_ARM_ENDING_IN_ARROW_POINTING_DOWN_AND_LEFT bRIGHT 9LEFT_AND_DOWN bUP
    9RIGHT_AND_DOWN bUP 9UP_AND_LEFT bRIGHT 1BY 1RIGHT_ANGLE_WITH_DOT 0MEAT_ON_BONE 0MECHANICAL_ARM
    1LEG 0MEDEFAIDRIN_CAPITAL_LETTER_A 3AI 3ATIU 3B 3C 3D 3E 3F 3G 3H 3HP 3I 3J 3K 3KP 3L 3M 3N 3NG
    3NY 3O 3OE 3P 3Q 3R 3S 3T 3U 3V 3W 3X 3Y 3YU 3Z 1COMMA 1DIGIT_EIGHT 2FIVE 2FOUR 2NINE 2ONE
    3ALTERNATE_FORM 2SEVEN 2SIX 2THREE 3ALTERNATE_FORM 2TWO 3ALTERNATE_FORM 2ZERO 1EXCLAMATION_OH
    1FULL_STOP 1NUMBER_EIGHTEEN 2ELEVEN 2FIFTEEN 2FOURTEEN 2NINETEEN 2SEVENTEEN 2SIXTEEN 2TEN
    2THIRTEEN 2TWELVE 1SMALL_LETTER_A 3AI 3ATIU 3B 3C 3D 3E 3F 3G 3H 3HP 3I 3J 3K 3KP 3L 3M 3N 3NG
    3NY 3O 3OE 3P 3Q 3R 3S 3T 3U 3V 3W 3X 3Y 3YU 3Z 1SYMBOL_AIVA 0MEDIEVAL_COMMA 1EXCLAMATION_MARK
    1QUESTION_MARK 0MEDIUM_BLACK_CIRCLE 1BOLD_WHITE_CIRCLE 1EIGHT_POINTED_BLACK_STAR
    2SPOKED_ASTERISK 1FIVE_SPOKED_ASTERISK 1FLATTENED_LEFT_PARENTHESIS_ORNAMENT
    2RIGHT_PARENTHESIS_ORNAMENT 1FOUR_POINTED_BLACK_STAR 3PINWHEEL_STAR 1GREEK_CROSS
    1LEFT_CURLY_BRACKET_ORNAMENT 2PARENTHESIS_ORNAMENT 1LEFT-POINTING_ANGLE_BRACKET_ORNAMENT
    1MATHEMATICAL_SPACE 1RIGHT_CURLY_BRACKET_ORNAMENT 2PARENTHESIS_ORNAMENT
    1RIGHT-POINTING_ANGLE_BRACKET_ORNAMENT 1SALTIRE 1SHADE 1SIX_POINTED_BLACK_STAR 2SPOKED_ASTERISK
    1SMALL_WHITE_CIRCLE 1THREE_POINTED_BLACK_STAR 3PINWHEEL_STAR 1VERTICAL_BAR 1WHITE_CIRCLE 2SQUARE
    0MEETEI_MAYEK_AHANG_KHUDAM 2ANJI 2APUN_IYEK 2CHEIKHAN 2CHEIKHEI 2DIGIT_EIGHT 3FIVE 3FOUR 3NINE
    3ONE 3SEVEN 3SIX 3THREE 3TWO 3ZERO 2LETTER_ATIYA 3BA 3BHAM 3CHA 3CHIL 3DDA 3DDHA 3DHOU 3DIL 3E
    3GHOU 3GOK 3HUK 3I 4LONSUM 3JHAM 3JIL 3KHOU 3KOK 4LONSUM 3LAI 4LONSUM 3MIT 4LONSUM 3NA 4LONSUM
    3NGOU 4LONSUM 3NNA 3NYA 3O 3PA 4LONSUM 3PHAM 3RAI 3SAM 3SHA 3SSA 3THOU 3TIL 4LONSUM 3TTA 3TTHA
    3UN 3WAI 3YANG 2LUM_IYEK 2SYLLABLE_REPETITION_MARK 2VIRAMA 2VOWEL_SIGN_AAI 4AAU 4ANAP 4AU
    4CHEINAP 4II 4INAP 4NUNG 4ONAP 4SOUNAP 4UNAP 4UU 4VISARGA 4YENAP 2WORD_REPETITION_MARK 0MELON
    0MELTING_FACE 0MEMO 0MENDE_KIKAKUI_COMBINING_NUMBER_HUNDRED_THOUSANDS 4HUNDREDS 4MILLIONS 4TEENS
    4TEN_THOUSANDS 4TENS 4THOUSANDS 2DIGIT_EIGHT 3FIVE 3FOUR 3NINE 3ONE 3SEVEN 3SIX 3THREE 3TWO
    2SYLLABLE_M001_KI 3M002_KA 3M003_KU 3M004_WI 3M005_WA 3M006_WU 3M007_MIN 3M008_MAN 3M009_MUN
    3M010_BI 3M011_BA 3M012_BU 3M013_I 3M014_A 3M015_U 3M016_DI 3M017_DA 3M018_DU 3M019_SI 3M020_SA
    3M021_SU 3M022_TI 3M023_TA 3M024_TU 3M025_LI 3M026_LA 3M027_LU 3M028_JI 3M029_JA 3M030_JU
    3M031_YI 3M032_YA 3M033_YU 3M034_FI 3M035_FA 3M036_FU 3M037_NIN 3M038_NAN 3M039_NUN 3M040_HEE
    3M041_HA 3M042_HOO 3M043_NGGA 3M044_KPEE 3M045_WO 3M046_HUAN 3M047_MBEE 3M048_KO 3M049_WVA
    3M050_PU 3M051_PE 3M052_HEN 3M053_HIN 3M054_LOO 3M055_TE 3M056_GBA 3M057_NGON 3M058_NYAN
    3M059_MEN 3M060_NYON 3M061_WVI 3M062_MBA 3M063_JO 3M064_NDO 3M065_KEE 3M066_PO 3M067_NDOO
    3M068_PI 3M069_TO 3M070_GBO 3M071_GBOO 3M072_MBE 3M073_LE 3M074_KPU 3M075_FE 3M076_KOO 3M077_VO
    3M078_FEE 3M079_SO 3M080_YE 3M081_PEE 3M082_NGGU 3M083_HEEI 3M084_LEE 3M085_VE 3M086_LONG_NGGE
    3M087_HUN 3M088_FO 3M089_DEE 3M090_NGGI 3M091_TEE 3M092_KPA 3M093_GBEE 3M094_MON 3M095_KE
    3M096_HE 3M097_BE 3M098_NYEN 3M099_PA 3M100_E 3M101_FAN 3M102_POO 3M103_BOO 3M104_TOO
    3M105_LONG_MBOO 3M106_LONG_NGGOO 3M107_GBE 3M108_KPE 3M109_YEE 3M110_LONG_LE 3M111_GA 3M112_KPOO
    3M113_JE 3M114_WOO 3M115_NGGEE 3M116_SE 3M117_NEN 3M118_WE 3M119_NDE 3M120_NGGO 3M121_YO
    3M122_MBU 3M123_NDI 3M124_GBI 3M125_NDU 3M126_WEE 3M127_NGGUA 3M128_HOOU 3M129_NDA 3M130_HAN
    3M131_IN 3M132_KPI 3M133_FOO 3M134_NJOO 3M135_IN 3M136_SOO 3M137_EI 3M138_BO 3M139_WVE 3M140_HO
    3M141_YOO 3M142_LONG_MBO 3M143_WEI 3M144_VOO 3M145_MBI 3M146_NGGE 3M147_O 3M148_GBU 3M149_NJEE
    3M150_BEE 3M151_VU 3M152_NJA 3M153_LO 3M154_MUAN 3M155_GI 3M156_NGGOO 3M157_JEE 3M158_KPO
    3M159_NGGAA 3M160_JOO 3M161_LONG_MBE 3M162_SEE 3M163_EE 3M164_NYIN 3M165_OO 3M166_GUEI
    3M167_GUAN 3M168_GU 3M169_NON 3M170_NYUN 3M171_RA 3M172_MBOO 3M173_VEE 3M174_MBO 3M175_LONG_JO
    3M176_HI 3M177_NGUAN 3M178_EN 3M179_KUA 3M180_DOO 3M181_DO 3M182_VI 3M183_LONG_NGGO 3M184_NGEN
    3M185_VA 3M186_HU 3M187_MBUU 3M188_MBEE 3M189_MUEN 3M190_GEE 3M191_NDEE 3M192_NJU 3M193_HON
    3M194_WUI 3M195_AN 3M196_SIA 3M197_FUA 0MENORAH_WITH_NINE_BRANCHES 0MENS_SYMBOL 0MERCURY
    0MEROITIC_CURSIVE_FRACTION_EIGHT_TWELFTHS 3ELEVEN_TWELFTHS 3FIVE_TWELFTHS 3FOUR_TWELFTHS
    3NINE_TWELFTHS 3ONE_HALF 4TWELFTH 3SEVEN_TWELFTHS 3SIX_TWELFTHS 3TEN_TWELFTHS 3THREE_TWELFTHS
    3TWO_TWELFTHS 2LETTER_A 3ARCHAIC_SA 3BA 3DA 3E 3HHA 3I 3KA 3KHA 3LA 3MA 3NA 3NE 3O 3PA 3QA 3RA
    3SA 3SE 3TA 3TE 3TO 3WA 3YA 2LOGOGRAM_IMN 3RMT 2NUMBER_EIGHT 4HUNDRED 5THOUSAND 4THOUSAND
    3EIGHTY_THOUSAND 3FIFTY 4THOUSAND 3FIVE 4HUNDRED 5THOUSAND 4THOUSAND 3FORTY 4THOUSAND 3FOUR
    4HUNDRED 5THOUSAND 4THOUSAND 3NINE 4HUNDRED 5THOUSAND 4THOUSAND 3NINETY_THOUSAND 3ONE 4HUNDRED
    5THOUSAND 4THOUSAND 3SEVEN 4HUNDRED 5THOUSAND 4THOUSAND 3SEVENTY 4THOUSAND 3SIX 4HUNDRED
    5THOUSAND 4THOUSAND 3SIXTY 4THOUSAND 3TEN 4THOUSAND 3THIRTY 4THOUSAND 3THREE 4HUNDRED 5THOUSAND
    4THOUSAND 3TWENTY 4THOUSAND 3TWO 4HUNDRED 5THOUSAND 4THOUSAND 1HIEROGLYPHIC_LETTER_A 3BA 3BA-2
    3DA 3E 3HHA 3I 3KA 3KHA 3LA 3MA 3NA 3NA-2 3NE 3NE-2 3O 3PA 3QA 3RA 3RA-2 3SA 3SA-2 3SE 3TA 3TA-2
    3TE 3TE-2 3TO 3WA 3YA 2SYMBOL_VIDJ 3VIDJ-2 0MERPERSON 0MESSAGE_WAITING 0METRICAL_BREVE
    1LONG_OVER_SHORT 3TWO_SHORTS 1PENTASEME 1SHORT_OVER_LONG 1TETRASEME 1TRISEME 1TWO_SHORTS_JOINED
    3OVER_LONG 0METRO 0MIAO_LETTER_AH 2ARCHAIC_MA 3NA 3NGA 3ZZA 2BA 2BRI 2DA 2DDA 2DLHA 2DLHYA 2DZA
    2DZHA 2DZYI 2DZZA 2FA 2GA 2GHA 2GHHA 2HA 2HHA 2KA 2LA 2LHA 2LHYA 2LYA 2MA 2MHA 2NA 2NASALIZATION
    2NGA 2NGHA 2NHA 2NNA 2NNHA 2NYA 2NYHA 2PA 2PLA 2QA 2QGA 2REFORMED_TONE-1 3TONE-2 3TONE-4 3TONE-5
    3TONE-6 3TONE-8 3TSHA 2RTE 2SA 2SHA 2SSA 2SYI 2TA 2TE 2TLHA 2TLHYA 2TONE-2 2TONE-3 2TONE-4
    2TONE-5 2TONE-6 2TONE-7 2TONE-8 2TSA 2TSE 2TSHA 2TSSA 2TTA 2VA 2VFA 2WA 2XA 2YI_DZHA 3KA 3NNA
    3PA 3TA 3TSA 3TSHA 3TTA 2ZA 2ZHA 2ZSA 2ZSHA 2ZZA 2ZZSA 2ZZSYA 2ZZYA 1SIGN_ASPIRATION
    2CONSONANT_MODIFIER_BAR 2REFORMED_ASPIRATION 3VOICING 1TONE_ABOVE 2BELOW 2RIGHT 2TOP_RIGHT
    1VOWEL_SIGN_A 3AA 3AE 3AEE 3AHH 3AI 3AN 3ANG 3AU 3E 3EA 3EI 3EN 3ENG 3ER 3ERR 3I 3IA 3IAN 3IANG
    3IE 3IG 3II 3ING 3IO 3IONG 3IU 3N 3NG 3O 3OER 3OEY 3OG 3OO 3OU 3ROUNDED_ER 4ERR 3U 3UA 3UAN
    3UANG 3UEI 3UI 3UNG 3UOG 3UU 3VW 3W 3WO 3Y 3YI 3YUI 0MICR_DASH_SYMBOL 1ON_US_SYMBOL 0MICRO_SIGN
    0MICROBE 0MICROPHONE 0MICROSCOPE 0MIDDLE_DOT 1THIRD_WHITE_RIGHT_POINTING_INDEX
    0MIDLINE_HORIZONTAL_ELLIPSIS 0MILITARY_HELMET 1MEDAL 0MILKY_WAY 0MILL_SIGN 0MINIBUS 0MINIDISC
    0MINIMIZE 0MINUS_SIGN 2IN_TRIANGLE 2WITH_COMMA_ABOVE 3DOT_BELOW 3FALLING_DOTS 3RISING_DOTS
    1TILDE 0MINUS-OR-PLUS_SIGN 0MINY 0MIRROR 1BALL 0MMSP 0MOBILE_PHONE 2OFF
    2WITH_RIGHTWARDS_ARROW_AT_LEFT 0MODELS 0MODERN_PENTATHLON 0MODI_ABBREVIATION_SIGN 1DANDA
    1DIGIT_EIGHT 2FIVE 2FOUR 2NINE 2ONE 2SEVEN 2SIX 2THREE 2TWO 2ZERO 1DOUBLE_DANDA 1LETTER_A 2AA
    2AI 2AU 2BA 2BHA 2CA 2CHA 2DA 2DDA 2DDHA 2DHA 2E 2GA 2GHA 2HA 2I 2II 2JA 2JHA 2KA 2KHA 2LA 2LLA
    2MA 2NA 2NGA 2NNA 2NYA 2O 2PA 2PHA 2RA 2SA 2SHA 2SSA 2TA 2THA 2TTA 2TTHA 2U 2UU 2VA 2VOCALIC_L
    3LL 3R 3RR 2YA 1SIGN_ANUSVARA 2ARDHACANDRA 2HUVA 2VIRAMA 2VISARGA 1VOWEL_SIGN_AA 3AI 3AU 3E 3I
    3II 3O 3U 3UU 3VOCALIC_L 4LL 4R 4RR 0MODIFIER_BREVE_WITH_INVERTED_BREVE 1LETTER_ACUTE_ACCENT
    2ALVEOLAR_CLICK 2APOSTROPHE 2BEGIN_HIGH_TONE 3LOW_TONE 2BILABIAL_CLICK 2CAPITAL_A 3AE 3B
    3BARRED_B 3C 3D 3E 3F 3G 3H 4WITH_STROKE 3I 3J 3K 3L 3M 3N 3O 3OU 3P 3Q 3R 3REVERSED_E 4N 3T 3U
    3V 3W 2CENTRED_LEFT_HALF_RING 3RIGHT_HALF_RING 2CHINESE_TONE_YANG_PING 5QU 5RU 5SHANG 4YIN_PING
    5QU 5RU 5SHANG 2CIRCUMFLEX_ACCENT 2COLON 2CROSS_ACCENT 2CYRILLIC_EN 3HARD_SIGN 3SOFT_SIGN
    2DENTAL_CLICK 2DOT_HORIZONTAL_BAR 3SLASH 3VERTICAL_BAR 2DOUBLE_APOSTROPHE 3PRIME 2DOWN_ARROWHEAD
    3TACK 2END_HIGH_TONE 3LOW_TONE 2EXTRA-HIGH_DOTTED_LEFT-STEM_TONE_BAR 4TONE_BAR
    3LEFT-STEM_TONE_BAR 3TONE_BAR 2EXTRA-LOW_DOTTED_LEFT-STEM_TONE_BAR 4TONE_BAR 3LEFT-STEM_TONE_BAR
    3TONE_BAR 2GEORGIAN_NAR 2GLOTTAL_STOP 4WITH_STROKE 2GRAVE_ACCENT 2HALF_TRIANGULAR_COLON
    2HIGH_DOTTED_LEFT-STEM_TONE_BAR 4TONE_BAR 3LEFT-STEM_TONE_BAR 3TONE_BAR 2LATERAL_CLICK
    2LEFT_ARROWHEAD 3HALF_RING 3TACK 2LOW_ACUTE_ACCENT 3CIRCUMFLEX_ACCENT 3DOTTED_LEFT-STEM_TONE_BAR
    4TONE_BAR 3DOWN_ARROWHEAD 3GRAVE_ACCENT 3INVERTED_EXCLAMATION_MARK 3LEFT_ARROW 4ARROWHEAD
    3LEFT-STEM_TONE_BAR 3MACRON 3RIGHT_ARROWHEAD 3RING 3TILDE 3TONE_BAR 3UP_ARROWHEAD 3VERTICAL_LINE
    2LOWER_RIGHT_CORNER_ANGLE 2MACRON 2MID_DOTTED_LEFT-STEM_TONE_BAR 4TONE_BAR 3LEFT-STEM_TONE_BAR
    3TONE_BAR 2MIDDLE_DOUBLE_ACUTE_ACCENT 4GRAVE_ACCENT 3GRAVE_ACCENT 2MINUS_SIGN 2OPEN_SHELF
    2PLUS_SIGN 2PRIME 2RAISED_COLON 3DOWN_ARROW 3EXCLAMATION_MARK 3INVERTED_EXCLAMATION_MARK
    3UP_ARROW 2RETROFLEX_CLICK_WITH_RETROFLEX_HOOK 2REVERSED_COMMA 3GLOTTAL_STOP 5WITH_STROKE
    2RHOTIC_HOOK 2RIGHT_ARROWHEAD 3HALF_RING 3TACK 2SHELF 2SHORT_EQUALS_SIGN 2SMALL_A 3AE 3AIN
    3ALPHA 3B 4WITH_HOOK 3BARRED_O 3BETA 3BOTTOM_HALF_O 3C 4WITH_CURL 3CAPITAL_AA 4B 4G 5WITH_HOOK
    4H 4I 5WITH_STROKE 4INVERTED_R 4L 5WITH_BELT 4N 4OE 4R 4U 4Y 3CHI 3CLOSED_OMEGA 4REVERSED_OPEN_E
    3D 4WITH_HOOK 6AND_TAIL 5TAIL 3DELTA 3DEZH_DIGRAPH 3DOTLESS_J_WITH_STROKE 7AND_HOOK 3DZ_DIGRAPH
    5WITH_CURL 6RETROFLEX_HOOK 3E 3ENG 3ESH 3ETH 3EZH 3F 3FENG_DIGRAPH 3G 4WITH_HOOK 3GAMMA
    3GREEK_GAMMA 4PHI 3H 4WITH_HOOK 5STROKE 3HENG 4WITH_HOOK 3I_WITH_STROKE 3IOTA 3J
    4WITH_CROSSED-TAIL 3K 3L 4WITH_BELT 5INVERTED_LAZY_S 5MIDDLE_TILDE 5PALATAL_HOOK 5RETROFLEX_HOOK
    7AND_BELT 3LEZH 4WITH_RETROFLEX_HOOK 3LIGATURE_OE 3LS_DIGRAPH 3LZ_DIGRAPH 3M 4WITH_HOOK
    3N_WITH_LEFT_HOOK 5RETROFLEX_HOOK 3O 4WITH_STROKE 3OPEN_E 4O 3P 3PHI 3Q 3R 4WITH_FISHHOOK 5TAIL
    3RAMS_HORN 3REVERSED_E 4GLOTTAL_STOP 4OPEN_E 3S 4WITH_CURL 5HOOK 3SCHWA 3SCRIPT_G 3SIDEWAYS_U 3T
    4WITH_PALATAL_HOOK 5RETROFLEX_HOOK 3TC_DIGRAPH_WITH_CURL 3TESH_DIGRAPH 3THETA 3TOP_HALF_O
    3TS_DIGRAPH 5WITH_RETROFLEX_HOOK 3TURNED_A 4AE 4ALPHA 4H 4I 4M 5WITH_LONG_LEG 4OPEN_E 4R
    5WITH_HOOK 6LONG_LEG 8AND_RETROFLEX_HOOK 4V 4W 4Y 5WITH_BELT 3U 4BAR 4WITH_LEFT_HOOK 3UPSILON 3V
    4WITH_HOOK 5RIGHT_HOOK 3W 3X 3Y 3Z 4WITH_CURL 5RETROFLEX_HOOK 2STRESS_AND_HIGH_TONE 4LOW_TONE
    2SUPERSCRIPT_HALF_TRIANGULAR_COLON 3TRIANGULAR_COLON 2TRIANGULAR_COLON 2TURNED_COMMA
    2UNASPIRATED 2UP_ARROWHEAD 3TACK 2US 2VERTICAL_LINE 2VOICING 2YANG_DEPARTING_TONE_MARK
    2YIN_DEPARTING_TONE_MARK 0MODULO_TWO_SUM 0MONEY_BAG 1WITH_WINGS 0MONEY-MOUTH_FACE
    0MONGOLIAN_BIRGA 2WITH_DOUBLE_ORNAMENT 3ORNAMENT 1COLON 1COMMA 1DIGIT_EIGHT 2FIVE 2FOUR 2NINE
    2ONE 2SEVEN 2SIX 2THREE 2TWO 2ZERO 1DOUBLE_BIRGA_WITH_ORNAMENT 1ELLIPSIS 1FOUR_DOTS
    1FREE_VARIATION_SELECTOR_FOUR 4ONE 4THREE 4TWO 1FULL_STOP 1INVERTED_BIRGA 3WITH_DOUBLE_ORNAMENT
    1LETTER_A 2ALI_GALI_A 4AH 4ANUSVARA_ONE 4BALUDA 4CA 4DA 4DAGALGA 4DAMARU 4DDA 4HALF_U 5YA 4I
    4INVERTED_UBADAMA 4KA 4NGA 4NNA 4PA 4PHA 4SSA 4TA 4THREE_BALUDA 4TTA 4TTHA 4UBADAMA 4VISARGA_ONE
    4ZA 4ZHA 2ANG 2BA 2CHA 3WITH_TWO_DOTS 2CHI 2DA 2E 2EE 2FA 2GA 2HAA 2I 2JA 2KA 2KHA 2LA 2LHA 2MA
    2MANCHU_ALI_GALI_BHA 5CA 5CYA 5DDHA 5DHA 5GHA 5JHA 5LHA 5NGA 5SSA 5TA 5TTA 5ZA 5ZHA 3FA 3I 3KA
    3RA 3ZHA 2NA 2O 2OE 2PA 2QA 2RA 2SA 2SHA 2SIBE_ANG 3CHA 3DA 3E 3FA 3GA 3GAA 3HA 3HAA 3I 3IY 3JA
    3KA 3PA 3RAA 3SHA 3TA 3TSA 3U 3UE 3ZA 3ZHA 2TA 2TODO_ALI_GALI_TA 5ZHA 3ANG 3BA 3CHA 3DA 3DZA 3E
    3GA 3GAA 3HAA 3I 3JA 3JIA 3KA 3LONG_VOWEL_SIGN 3MA 3NIA 3O 3OE 3PA 3QA 3TA 3TSA 3U 3UE 3WA 3YA
    2TSA 2U 2UE 2WA 2YA 2ZA 2ZHI 2ZRA 1MANCHU_COMMA 2FULL_STOP 1NIRUGU 1ROTATED_BIRGA
    3WITH_DOUBLE_ORNAMENT 4ORNAMENT 1SIBE_SYLLABLE_BOUNDARY_MARKER 1SWIRL_BIRGA
    3WITH_DOUBLE_ORNAMENT 4ORNAMENT 1TODO_SOFT_HYPHEN 1TRIPLE_BIRGA_WITH_ORNAMENT
    1TURNED_SWIRL_BIRGA_WITH_DOUBLE_ORNAMENT 1VOWEL_SEPARATOR 0MONKEY 1FACE 0MONOGRAM_FOR_EARTH
    2YANG 2YIN 0MONORAIL 0MONOSTABLE_SYMBOL 0MOOD_BUBBLE 0MOON_CAKE 1VIEWING_CEREMONY 0MOSQUE
    0MOSQUITO 0MOTHER_CHRISTMAS 0MOTOR_BOAT 1SCOOTER 0MOTORIZED_WHEELCHAIR 0MOTORWAY 0MOUNT_FUJI
    0MOUNTAIN 1BICYCLIST 1CABLEWAY 1RAILWAY 0MOUSE 1FACE 1TRAP 0MOUTH 0MOVIE_CAMERA 0MOYAI
    0MRO_DANDA 1DIGIT_EIGHT 2FIVE 2FOUR 2NINE 2ONE 2SEVEN 2SIX 2THREE 2TWO 2ZERO 1DOUBLE_DANDA
    1LETTER_A 2BA 2CHU 2DA 2DAI 2E 2EA 2HAI 2HAO 2KEAAE 2KHAI 2KO 2LA 2LAN 2MAEM 2MIM 2NGI 2NIN 2O
    2OL 2OO 2PA 2PHI 2RI 2RO 2SHI 2TA 2TEK 2THEA 2WA 2YO 0MUCH_GREATER-THAN 1LESS-THAN
    0MULTANI_LETTER_A 2BA 2BHA 2CA 2CHA 2DA 2DDA 2DDDA 2DDHA 2DHA 2E 2GA 2GHA 2HA 2I 2JA 2JJA 2KA
    2KHA 2LA 2MA 2NA 2NNA 2NYA 2PA 2PHA 2RA 2RHA 2RRA 2SA 2TA 2THA 2TTA 2TTHA 2U 2VA 2YA
    1SECTION_MARK 0MULTIMAP 0MULTIPLE_MUSICAL_NOTES 0MULTIPLICATION_SIGN 2IN_DOUBLE_CIRCLE
    3LEFT_HALF_CIRCLE 3RIGHT_HALF_CIRCLE 3TRIANGLE 2WITH_DOT_ABOVE 3UNDERBAR 1X 0MULTISET
    1MULTIPLICATION 1UNION 0MUSHROOM 0MUSIC_FLAT_SIGN 1NATURAL_SIGN 1SHARP_SIGN 0MUSICAL_KEYBOARD
    2WITH_JACKS 1NOTE 1SCORE 1SYMBOL_ARPEGGIATO_DOWN 3UP 2BEGIN_BEAM 3PHRASE 3SLUR 3TIE 2BRACE
    2BRACKET 2BREATH_MARK 2BREVE 2BREVIS 3REST 2C_CLEF 2CAESURA 2CIRCLE_X_NOTEHEAD 2CLIMACUS 2CLIVIS
    2CLUSTER_NOTEHEAD_BLACK 4WHITE 2CODA 2COMBINING_ACCENT 3ACCENT-STACCATO 3AUGMENTATION_DOT 3BEND
    3DOIT 3DOUBLE_TONGUE 3DOWN_BOW 3FLAG-1 3FLAG-2 3FLAG-3 3FLAG-4 3FLAG-5 3FLIP 3HARMONIC 3LOURE
    3MARCATO 3MARCATO-STACCATO 3RIP 3SMEAR 3SNAP_PIZZICATO 3SPRECHGESANG_STEM 3STACCATISSIMO
    3STACCATO 3STEM 3TENUTO 3TREMOLO-1 3TREMOLO-2 3TREMOLO-3 3TRIPLE_TONGUE 3UP_BOW 2COMMON_TIME
    2CRESCENDO 2CROIX 2CUT_TIME 2DA_CAPO 2DAL_SEGNO 2DAMP 3ALL 2DASHED_BARLINE 2DECRESCENDO
    2DEGREE_SLASH 2DOUBLE_BARLINE 3FLAT 3SHARP 2DRUM_CLEF-1 3CLEF-2 2EIGHTH_NOTE 3REST 2END_BEAM
    3OF_STIMME 3PHRASE 3SLUR 3TIE 2F_CLEF 4OTTAVA_ALTA 5BASSA 2FERMATA 3BELOW 2FINAL_BARLINE
    2FINGERED_TREMOLO-1 3TREMOLO-2 3TREMOLO-3 2FIVE-LINE_STAFF 2FLAT_DOWN 3UP 2FORTE
    2FOUR-LINE_STAFF 2FOUR-STRING_FRETBOARD 2FUSA_BLACK 3WHITE 2G_CLEF 4OTTAVA_ALTA 5BASSA
    2GLISSANDO_DOWN 3UP 2GRACE_NOTE_NO_SLASH 4SLASH 2GREGORIAN_C_CLEF 3F_CLEF 2HALF_NOTE 3PEDAL_MARK
    3REST 2HAUPTSTIMME 2INVERTED_TURN 2KIEVAN_C_CLEF 3EIGHTH_NOTE_STEM_DOWN 6UP 3END_OF_PIECE
    3FINAL_NOTE 3FLAT_SIGN 3HALF_NOTE 3QUARTER_NOTE_STEM_DOWN 6UP 3RECITATIVE_MARK 3WHOLE_NOTE
    2KORON 2LEFT_REPEAT_SIGN 2LONGA 3IMPERFECTA_REST 3PERFECTA_REST 2MAXIMA 2MEZZO 2MINIMA 3BLACK
    3REST 2MOON_NOTEHEAD_BLACK 4WHITE 2MULTI_REST 2MULTIPLE_MEASURE_REST 2NATURAL_DOWN 3UP
    2NEBENSTIMME 2NOTEHEAD_BLACK 2NULL_NOTEHEAD 2ONE_HUNDRED_TWENTY-EIGHTH_NOTE 5REST
    2ONE-LINE_STAFF 2ORNAMENT_STROKE-1 3STROKE-10 3STROKE-11 3STROKE-2 3STROKE-3 3STROKE-4 3STROKE-5
    3STROKE-6 3STROKE-7 3STROKE-8 3STROKE-9 2OTTAVA_ALTA 3BASSA 2PARENTHESIS_NOTEHEAD 2PEDAL_MARK
    3UP_MARK 2PES_SUBPUNCTIS 2PIANO 2PLUS_NOTEHEAD 2PODATUS 2PORRECTUS 3FLEXUS 2QUARTER_NOTE 3REST
    3TONE_FLAT 4SHARP 2QUINDICESIMA_ALTA 3BASSA 2REPEAT_DOTS 2REPEATED_FIGURE-1 3FIGURE-2 3FIGURE-3
    2REVERSE_FINAL_BARLINE 2RIGHT_REPEAT_SIGN 2RINFORZANDO 2SCANDICUS 3FLEXUS 2SEGNO
    2SEMIBREVIS_BLACK 3REST 3WHITE 2SEMIMINIMA_BLACK 3REST 3WHITE 2SHARP_DOWN 3UP 2SHORT_BARLINE
    2SINGLE_BARLINE 2SIX-LINE_STAFF 2SIX-STRING_FRETBOARD 2SIXTEENTH_NOTE 3REST 2SIXTY-FOURTH_NOTE
    3REST 2SORI 2SQUARE_B 3NOTEHEAD_BLACK 4WHITE 2SUBITO
    2TEMPUS_IMPERFECTUM_CUM_PROLATIONE_IMPERFECTA 7DIMINUTION-1 7DIMINUTION-2 7DIMINUTION-3
    6PERFECTA 3PERFECTUM_CUM_PROLATIONE_IMPERFECTA 6PERFECTA 7DIMINUTION-1 2THIRTY-SECOND_NOTE 3REST
    2THREE-LINE_STAFF 2TORCULUS 3RESUPINUS 2TR 2TRIANGLE_NOTEHEAD_DOWN_BLACK 5WHITE 4LEFT_BLACK
    5WHITE 4RIGHT_BLACK 5WHITE 4UP_BLACK 5RIGHT_BLACK 6WHITE 5WHITE
    2TRIANGLE-ROUND_NOTEHEAD_DOWN_BLACK 5WHITE 2TURN 3SLASH 3UP 2TWO-LINE_STAFF 2VIRGA
    2VOID_NOTEHEAD 2WHOLE_NOTE 3REST 2WITH_FINGERNAILS 2X_NOTEHEAD 2Z 0MVS 0MW
    0MYANMAR_CONSONANT_SIGN_MEDIAL_HA 4RA 4WA 4YA 3MON_MEDIAL_LA 5MA 5NA 3SHAN_MEDIAL_WA
    1DIGIT_EIGHT 2FIVE 2FOUR 2NINE 2ONE 2SEVEN 2SIX 2THREE 2TWO 2ZERO 1LETTER_A 2AITON_RA 2AU 2BA
    2BHA 2CA 2CHA 2DA 2DDA 2DDHA 2DHA 2E 2EASTERN_PWO_KAREN_GHWA 5NNA 5YWA 2GA 2GHA 2GREAT_SA 2HA 2I
    2II 2JA 2JHA 2KA 2KHA 2KHAMTI_CA 3CHA 3DDA 3DDHA 3DHA 3FA 3GA 3HA 3HHA 3JA 3JHA 3LLA 3NA 3NYA
    3RA 3SA 3TTA 3TTHA 3XA 3ZA 2LA 2LLA 2MA 2MON_BBA 3BBE 3E 3JHA 3NGA 2NA 2NGA 2NNA 2NNYA 2NYA 2O
    2PA 2PHA 2RA 2RUMAI_PALAUNG_FA 2SA 2SGAW_KAREN_SHA 2SHA 2SHAN_A 3BA 3BHA 3CA 3CHA 3DA 3FA 3GA
    3GHA 3HA 3JHA 3KA 3KHA 3NA 3NNA 3NYA 3PHA 3THA 3ZA 2SHWE_PALAUNG_CHA 4SHA 2SSA 2TA 2TAI_LAING_BA
    4BHA 4DA 4DDA 4DDHA 4DHA 4FA 4GA 4GHA 4JA 4JHA 4LLA 4NNA 4NYA 2THA 2TTA 2TTHA 2U 2UU 2VOCALIC_L
    3LL 3R 3RR 2WA 2WESTERN_PWO_KAREN_PWA 5THA 2YA 1LOGOGRAM_KHAMTI_HM 3OAY 3QN
    1MODIFIER_LETTER_KHAMTI_REDUPLICATION 3SHAN_REDUPLICATION 1SHAN_DIGIT_EIGHT 3FIVE 3FOUR 3NINE
    3ONE 3SEVEN 3SIX 3THREE 3TWO 3ZERO 1SIGN_ANUSVARA 2ASAT 2DOT_BELOW 2KHAMTI_TONE-1 3TONE-3
    2LITTLE_SECTION 2PAO_KAREN_TONE 2RUMAI_PALAUNG_TONE-5 2SECTION 2SHAN_COUNCIL_EMPHATIC_TONE
    4TONE-2 4TONE-3 3SAW 3TONE-2 3TONE-3 3TONE-5 3TONE-6 2TAI_LAING_TONE-2 4TONE-5 2VIRAMA 2VISARGA
    2WESTERN_PWO_KAREN_TONE-1 5TONE-2 5TONE-3 5TONE-4 5TONE-5 1SYMBOL_AFOREMENTIONED
    2AITON_EXCLAMATION 3ONE 3TWO 2COMPLETED 2GENITIVE 2LOCATIVE 2SHAN_EXCLAMATION 3ONE
    1TAI_LAING_DIGIT_EIGHT 4FIVE 4FOUR 4NINE 4ONE 4SEVEN 4SIX 4THREE 4TWO 4ZERO
    1TONE_MARK_SGAW_KAREN_HATHI 5KE_PHO 1VOWEL_SIGN_AA 3AI 3AITON_A 4AI 3E 4ABOVE 3GEBA_KAREN_I 3I
    3II 3KAYAH_EE 4OE 4U 3MON_II 4O 3SGAW_KAREN_EU 3SHAN_AA 4E 5ABOVE 4FINAL_Y 3TALL_AA 3U 3UU
    3VOCALIC_L 4LL 4R 4RR 3WESTERN_PWO_KAREN_EU 6UE
    "),
    ('N', "
    0N-ARY_CIRCLED_DOT_OPERATOR 2PLUS_OPERATOR 2TIMES_OPERATOR 1COPRODUCT 1INTERSECTION 1LOGICAL_AND
    2OR 1PRODUCT 1SQUARE_INTERSECTION_OPERATOR 2UNION_OPERATOR 1SUMMATION 1TIMES_OPERATOR 1UNION
    2OPERATOR_WITH_DOT 4PLUS 1WHITE_VERTICAL_BAR 0NABATAEAN_CRUCIFORM_NUMBER_FOUR 1LETTER_ALEPH
    2AYIN 2BETH 2DALETH 2FINAL_ALEPH 3BETH 3HE 3KAPH 3LAMEDH 3MEM 3NUN 3SHIN 3YODH 2GIMEL 2HE 2HETH
    2KAPH 2LAMEDH 2MEM 2NUN 2PE 2QOPH 2RESH 2SADHE 2SAMEKH 2SHIN 2TAW 2TETH 2WAW 2YODH 2ZAYIN
    1NUMBER_FIVE 2FOUR 2ONE 3HUNDRED 2TEN 2THREE 2TWENTY 2TWO 0NABLA 0NAIL_POLISH 0NAIRA_SIGN 0NAK
    0NAME_BADGE 0NAND 0NANDINAGARI_HEADSTROKE 1LETTER_A 2AA 2AI 2AU 2BA 2BHA 2CA 2CHA 2DA 2DDA 2DDHA
    2DHA 2E 2GA 2GHA 2HA 2I 2II 2JA 2JHA 2KA 2KHA 2LA 2LLA 2MA 2NA 2NGA 2NNA 2NYA 2O 2PA 2PHA 2RA
    2RRA 2SA 2SHA 2SSA 2TA 2THA 2TTA 2TTHA 2U 2UU 2VA 2VOCALIC_R 3RR 2YA 1SIGN_ANUSVARA 2AVAGRAHA
    2SIDDHAM 2VIRAMA 2VISARGA 1VOWEL_SIGN_AA 3AI 3AU 3E 3I 3II 3O 3PRISHTHAMATRA_E 3U 3UU 3VOCALIC_R
    4RR 0NARROW_NO-BREAK_SPACE 0NATIONAL_DIGIT_SHAPES 1PARK 0NAUSEATED_FACE 0NAZAR_AMULET 0NBH 0NBSP
    0NECKTIE 0NEGATED_DOUBLE_VERTICAL_BAR_DOUBLE_RIGHT_TURNSTILE 0NEGATIVE_ACKNOWLEDGE
    1CIRCLED_DIGIT_ZERO 2LATIN_CAPITAL_LETTER_A 5B 5C 5D 5E 5F 5G 5H 5I 5J 5K 5L 5M 5N 5O 5P 5Q 5R
    5S 5T 5U 5V 5W 5X 5Y 5Z 2NUMBER_EIGHTEEN 3ELEVEN 3FIFTEEN 3FOURTEEN 3NINETEEN 3SEVENTEEN
    3SIXTEEN 3THIRTEEN 3TWELVE 3TWENTY 2SQUARE 2TRIANGLE 1DIAGONAL_CROSS 2DIAMOND
    2MIDDLE_RIGHT_TO_LOWER_CENTRE 1SQUARED_AB 2CROSS_MARK 2IC 2LATIN_CAPITAL_LETTER_A 5B 5C 5D 5E 5F
    5G 5H 5I 5J 5K 5L 5M 5N 5O 5P 5Q 5R 5S 5T 5U 5V 5W 5X 5Y 5Z 2PA 2QUESTION_MARK 2SA 2WC
    0NEITHER_A_SUBSET_OF_NOR_EQUAL_TO 2SUPERSET_OF_NOR_EQUAL_TO 1APPROXIMATELY_NOR_ACTUALLY_EQUAL_TO
    1GREATER-THAN_NOR_EQUAL_TO 3EQUIVALENT_TO 3LESS-THAN 1LESS-THAN_NOR_EQUAL_TO 3EQUIVALENT_TO
    3GREATER-THAN 0NEL 0NEPTUNE 1FORM_TWO 0NERD_FACE 0NESSUS 0NEST_WITH_EGGS 0NESTING_DOLLS 0NEUTER
    0NEUTRAL_CHESS_BISHOP 3ROTATED_NINETY_DEGREES 4TWO_HUNDRED_SEVENTY_DEGREES 2EQUIHOPPER
    3ROTATED_NINETY_DEGREES 2KING 3ROTATED_NINETY_DEGREES 4TWO_HUNDRED_SEVENTY_DEGREES 2KNIGHT
    3ROTATED_FORTY-FIVE_DEGREES 4NINETY_DEGREES 4ONE_HUNDRED_THIRTY-FIVE_DEGREES
    4THREE_HUNDRED_FIFTEEN_DEGREES 4TWO_HUNDRED_SEVENTY_DEGREES 6TWENTY-FIVE_DEGREES 2PAWN
    3ROTATED_NINETY_DEGREES 4TWO_HUNDRED_SEVENTY_DEGREES 2QUEEN 3ROTATED_NINETY_DEGREES
    4TWO_HUNDRED_SEVENTY_DEGREES 2ROOK 3ROTATED_NINETY_DEGREES 4TWO_HUNDRED_SEVENTY_DEGREES
    2TURNED_BISHOP 3KING 3KNIGHT 3PAWN 3QUEEN 3ROOK 1FACE 0NEW_LINE 1MOON_SYMBOL 2WITH_FACE
    1SHEQEL_SIGN 1TAI_LUE_DIGIT_EIGHT 4FIVE 4FOUR 4NINE 4ONE 4SEVEN 4SIX 4THREE 4TWO 4ZERO
    3LETTER_FINAL_B 5D 5K 5M 5N 5NG 5V 4HIGH_BA 5DA 5FA 5HA 5KA 5KVA 5LA 5MA 5NA 5NGA 5PA 5PHA 5QA
    5SA 5SUA 5TA 5THA 5TSA 5VA 5XA 5XVA 5YA 4LOW_BA 5DA 5FA 5HA 5KA 5KVA 5LA 5MA 5NA 5NGA 5PA 5PHA
    5QA 5SA 5SUA 5TA 5THA 5TSA 5VA 5XA 5XVA 5YA 3SIGN_LAE 4LAEV 3THAM_DIGIT_ONE 3TONE_MARK-1 4MARK-2
    3VOWEL_SIGN_AA 5AAY 5AE 5AY 5E 5II 5IY 5O 5OA 5OAY 5OY 5U 5UE 5UEY 5UU 5UY 5VOWEL_SHORTENER
    0NEWA_ABBREVIATION_SIGN 1COMMA 1DANDA 1DIGIT_EIGHT 2FIVE 2FOUR 2NINE 2ONE 2SEVEN 2SIX 2THREE
    2TWO 2ZERO 1DOUBLE_COMMA 2DANDA 1GAP_FILLER 1INSERTION_SIGN 1LETTER_A 2AA 2AI 2AU 2BA 2BHA 2CA
    2CHA 2DA 2DDA 2DDHA 2DHA 2E 2GA 2GHA 2HA 2I 2II 2JA 2JHA 2KA 2KHA 2LA 2LHA 2MA 2MHA 2NA 2NGA
    2NGHA 2NHA 2NNA 2NYA 2NYHA 2O 2PA 2PHA 2RA 2RHA 2SA 2SHA 2SSA 2TA 2THA 2TTA 2TTHA 2U 2UU
    2VEDIC_ANUSVARA 2VOCALIC_L 3LL 3R 3RR 2WA 2YA 1OM 1PLACEHOLDER_MARK 1SANDHI_MARK 1SIDDHI
    1SIGN_ANUSVARA 2AVAGRAHA 2CANDRABINDU 2FINAL_ANUSVARA 2JIHVAMULIYA 2NUKTA 2UPADHMANIYA 2VIRAMA
    2VISARGA 1VOWEL_SIGN_AA 3AI 3AU 3E 3I 3II 3O 3U 3UU 3VOCALIC_L 4LL 4R 4RR 0NEWLINE_LEFT 1RIGHT
    0NEWSPAPER 0NEXT_LINE 1PAGE 0NIGHT_WITH_STARS 0NINJA 0NKO_COMBINING_DOUBLE_DOT_ABOVE
    2LONG_DESCENDING_TONE 3HIGH_TONE 3LOW_TONE 3RISING_TONE 2NASALIZATION_MARK 2SHORT_HIGH_TONE
    3LOW_TONE 3RISING_TONE 1COMMA 1DANTAYALAN 1DIGIT_EIGHT 2FIVE 2FOUR 2NINE 2ONE 2SEVEN 2SIX 2THREE
    2TWO 2ZERO 1DOROME_SIGN 1EXCLAMATION_MARK 1HIGH_TONE_APOSTROPHE 1LAJANYALAN 1LETTER_A 2BA 2CHA
    2DA 2DAGBASINNA 2E 2EE 2FA 2GBA 2HA 2I 2JA 2JONA_CHA 3JA 3RA 2KA 2LA 2MA 2N 2NA 3WOLOSO 2NYA
    3WOLOSO 2O 2OO 2PA 2RA 2RRA 2SA 2TA 2U 2WA 2YA 1LOW_TONE_APOSTROPHE 1SYMBOL_GBAKURUNEN
    2OO_DENNEN 1TAMAN_SIGN 0NL 0NNBSP 0NO_BICYCLES 1BREAK_HERE 1ENTRY 2SIGN 1MOBILE_PHONES
    1ONE_UNDER_EIGHTEEN_SYMBOL 1PEDESTRIANS 1PIRACY 1SMOKING_SYMBOL 0NO-BREAK_SPACE
    0NOMINAL_DIGIT_SHAPES 0NOMISMA_SIGN 0NON-BREAKING_HYPHEN 0NON-POTABLE_WATER_SYMBOL 0NONFORKING
    0NOR 0NORDIC_MARK_SIGN 0NORMAL_SUBGROUP_OF 3OR_EQUAL_TO 0NORTH_EAST_AND_SOUTH_WEST_ARROW 2ARROW
    3AND_SOUTH_EAST_ARROW 3CROSSING_NORTH_WEST_ARROW 4SOUTH_EAST_ARROW 3WITH_HOOK 2BLACK_ARROW
    2DOUBLE_ARROW 2POINTING_BUD 3LEAF 3VINE_LEAF 2SANS-SERIF_ARROW 2TRIANGLE-HEADED_ARROW 4TO_BAR
    2WHITE_ARROW 1INDIC_FRACTION_ONE_EIGHTH 4HALF 4QUARTER 4SIXTEENTH 3THREE_QUARTERS 4SIXTEENTHS
    2PLACEHOLDER_MARK 2QUANTITY_MARK 2QUARTER_MARK 2RUPEE_MARK 1WEST_AND_SOUTH_EAST_ARROW 2ARROW
    3AND_NORTH_EAST_ARROW 3CROSSING_NORTH_EAST_ARROW 3TO_CORNER 4LONG_BAR 3WITH_HOOK 2BLACK_ARROW
    2DOUBLE_ARROW 2POINTING_BUD 3LEAF 3VINE_LEAF 2SANS-SERIF_ARROW 2TRIANGLE-HEADED_ARROW 4TO_BAR
    2WHITE_ARROW 0NORTHEAST-POINTING_AIRPLANE 0NOSE 0NOT_A_SUBSET_OF 2SUPERSET_OF 1ALMOST_EQUAL_TO
    1AN_ELEMENT_OF 1ASYMPTOTICALLY_EQUAL_TO 1CHECK_MARK 1EQUAL_TO 1EQUIVALENT_TO 1GREATER-THAN
    1IDENTICAL_TO 1LESS-THAN 1NORMAL_SUBGROUP_OF 4OR_EQUAL_TO 1PARALLEL_TO 1SIGN
    1SQUARE_IMAGE_OF_OR_EQUAL_TO 2ORIGINAL_OF_OR_EQUAL_TO 1TILDE 1TRUE
    0NOTCHED_LEFT_SEMICIRCLE_WITH_THREE_DOTS 1LOWER_RIGHT-SHADOWED_WHITE_RIGHTWARDS_ARROW
    1RIGHT_SEMICIRCLE_WITH_THREE_DOTS 1UPPER_RIGHT-SHADOWED_WHITE_RIGHTWARDS_ARROW 0NOTE 1PAD 1PAGE
    0NOTEBOOK 1WITH_DECORATIVE_COVER 0NUL 0NULL 0NUMBER_EIGHTEEN_FULL_STOP 1ELEVEN_FULL_STOP
    1FIFTEEN_FULL_STOP 1FOURTEEN_FULL_STOP 1NINETEEN_FULL_STOP 1SEVENTEEN_FULL_STOP 1SIGN
    1SIXTEEN_FULL_STOP 1TEN_FULL_STOP 1THIRTEEN_FULL_STOP 1TWELVE_FULL_STOP 1TWENTY_FULL_STOP
    0NUMERO_SIGN 0NUSHU_CHARACTER-1B170 1CHARACTER-1B171 1CHARACTER-1B172 1CHARACTER-1B173
    1CHARACTER-1B174 1CHARACTER-1B175 1CHARACTER-1B176 1CHARACTER-1B177 1CHARACTER-1B178
    1CHARACTER-1B179 1CHARACTER-1B17A 1CHARACTER-1B17B 1CHARACTER-1B17C 1CHARACTER-1B17D
    1CHARACTER-1B17E 1CHARACTER-1B17F 1CHARACTER-1B180 1CHARACTER-1B181 1CHARACTER-1B182
    1CHARACTER-1B183 1CHARACTER-1B184 1CHARACTER-1B185 1CHARACTER-1B186 1CHARACTER-1B187
    1CHARACTER-1B188 1CHARACTER-1B189 1CHARACTER-1B18A 1CHARACTER-1B18B 1CHARACTER-1B18C
    1CHARACTER-1B18D 1CHARACTER-1B18E 1CHARACTER-1B18F 1CHARACTER-1B190 1CHARACTER-1B191
    1CHARACTER-1B192 1CHARACTER-1B193 1CHARACTER-1B194 1CHARACTER-1B195 1CHARACTER-1B196
    1CHARACTER-1B197 1CHARACTER-1B198 1CHARACTER-1B199 1CHARACTER-1B19A 1CHARACTER-1B19B
    1CHARACTER-1B19C 1CHARACTER-1B19D 1CHARACTER-1B19E 1CHARACTER-1B19F 1CHARACTER-1B1A0
    1CHARACTER-1B1A1 1CHARACTER-1B1A2 1CHARACTER-1B1A3 1CHARACTER-1B1A4 1CHARACTER-1B1A5
    1CHARACTER-1B1A6 1CHARACTER-1B1A7 1CHARACTER-1B1A8 1CHARACTER-1B1A9 1CHARACTER-1B1AA
    1CHARACTER-1B1AB 1CHARACTER-1B1AC 1CHARACTER-1B1AD 1CHARACTER-1B1AE 1CHARACTER-1B1AF
    1CHARACTER-1B1B0 1CHARACTER-1B1B1 1CHARACTER-1B1B2 1CHARACTER-1B1B3 1CHARACTER-1B1B4
    1CHARACTER-1B1B5 1CHARACTER-1B1B6 1CHARACTER-1B1B7 1CHARACTER-1B1B8 1CHARACTER-1B1B9
    1CHARACTER-1B1BA 1CHARACTER-1B1BB 1CHARACTER-1B1BC 1CHARACTER-1B1BD 1CHARACTER-1B1BE
    1CHARACTER-1B1BF 1CHARACTER-1B1C0 1CHARACTER-1B1C1 1CHARACTER-1B1C2 1CHARACTER-1B1C3
    1CHARACTER-1B1C4 1CHARACTER-1B1C5 1CHARACTER-1B1C6 1CHARACTER-1B1C7 1CHARACTER-1B1C8
    1CHARACTER-1B1C9 1CHARACTER-1B1CA 1CHARACTER-1B1CB 1CHARACTER-1B1CC 1CHARACTER-1B1CD
    1CHARACTER-1B1CE 1CHARACTER-1B1CF 1CHARACTER-1B1D0 1CHARACTER-1B1D1 1CHARACTER-1B1D2
    1CHARACTER-1B1D3 1CHARACTER-1B1D4 1CHARACTER-1B1D5 1CHARACTER-1B1D6 1CHARACTER-1B1D7
    1CHARACTER-1B1D8 1CHARACTER-1B1D9 1CHARACTER-1B1DA 1CHARACTER-1B1DB 1CHARACTER-1B1DC
    1CHARACTER-1B1DD 1CHARACTER-1B1DE 1CHARACTER-1B1DF 1CHARACTER-1B1E0 1CHARACTER-1B1E1
    1CHARACTER-1B1E2 1CHARACTER-1B1E3 1CHARACTER-1B1E4 1CHARACTER-1B1E5 1CHARACTER-1B1E6
    1CHARACTER-1B1E7 1CHARACTER-1B1E8 1CHARACTER-1B1E9 1CHARACTER-1B1EA 1CHARACTER-1B1EB
    1CHARACTER-1B1EC 1CHARACTER-1B1ED 1CHARACTER-1B1EE 1CHARACTER-1B1EF 1CHARACTER-1B1F0
    1CHARACTER-1B1F1 1CHARACTER-1B1F2 1CHARACTER-1B1F3 1CHARACTER-1B1F4 1CHARACTER-1B1F5
    1CHARACTER-1B1F6 1CHARACTER-1B1F7 1CHARACTER-1B1F8 1CHARACTER-1B1F9 1CHARACTER-1B1FA
    1CHARACTER-1B1FB 1CHARACTER-1B1FC 1CHARACTER-1B1FD 1CHARACTER-1B1FE 1CHARACTER-1B1FF
    1CHARACTER-1B200 1CHARACTER-1B201 1CHARACTER-1B202 1CHARACTER-1B203 1CHARACTER-1B204
    1CHARACTER-1B205 1CHARACTER-1B206 1CHARACTER-1B207 1CHARACTER-1B208 1CHARACTER-1B209
    1CHARACTER-1B20A 1CHARACTER-1B20B 1CHARACTER-1B20C 1CHARACTER-1B20D 1CHARACTER-1B20E
    1CHARACTER-1B20F 1CHARACTER-1B210 1CHARACTER-1B211 1CHARACTER-1B212 1CHARACTER-1B213
    1CHARACTER-1B214 1CHARACTER-1B215 1CHARACTER-1B216 1CHARACTER-1B217 1CHARACTER-1B218
    1CHARACTER-1B219 1CHARACTER-1B21A 1CHARACTER-1B21B 1CHARACTER-1B21C 1CHARACTER-1B21D
    1CHARACTER-1B21E 1CHARACTER-1B21F 1CHARACTER-1B220 1CHARACTER-1B221 1CHARACTER-1B222
    1CHARACTER-1B223 1CHARACTER-1B224 1CHARACTER-1B225 1CHARACTER-1B226 1CHARACTER-1B227
    1CHARACTER-1B228 1CHARACTER-1B229 1CHARACTER-1B22A 1CHARACTER-1B22B 1CHARACTER-1B22C
    1CHARACTER-1B22D 1CHARACTER-1B22E 1CHARACTER-1B22F 1CHARACTER-1B230 1CHARACTER-1B231
    1CHARACTER-1B232 1CHARACTER-1B233 1CHARACTER-1B234 1CHARACTER-1B235 1CHARACTER-1B236
    1CHARACTER-1B237 1CHARACTER-1B238 1CHARACTER-1B239 1CHARACTER-1B23A 1CHARACTER-1B23B
    1CHARACTER-1B23C 1CHARACTER-1B23D 1CHARACTER-1B23E 1CHARACTER-1B23F 1CHARACTER-1B240
    1CHARACTER-1B241 1CHARACTER-1B242 1CHARACTER-1B243 1CHARACTER-1B244 1CHARACTER-1B245
    1CHARACTER-1B246 1CHARACTER-1B247 1CHARACTER-1B248 1CHARACTER-1B249 1CHARACTER-1B24A
    1CHARACTER-1B24B 1CHARACTER-1B24C 1CHARACTER-1B24D 1CHARACTER-1B24E 1CHARACTER-1B24F
    1CHARACTER-1B250 1CHARACTER-1B251 1CHARACTER-1B252 1CHARACTER-1B253 1CHARACTER-1B254
    1CHARACTER-1B255 1CHARACTER-1B256 1CHARACTER-1B257 1CHARACTER-1B258 1CHARACTER-1B259
    1CHARACTER-1B25A 1CHARACTER-1B25B 1CHARACTER-1B25C 1CHARACTER-1B25D 1CHARACTER-1B25E
    1CHARACTER-1B25F 1CHARACTER-1B260 1CHARACTER-1B261 1CHARACTER-1B262 1CHARACTER-1B263
    1CHARACTER-1B264 1CHARACTER-1B265 1CHARACTER-1B266 1CHARACTER-1B267 1CHARACTER-1B268
    1CHARACTER-1B269 1CHARACTER-1B26A 1CHARACTER-1B26B 1CHARACTER-1B26C 1CHARACTER-1B26D
    1CHARACTER-1B26E 1CHARACTER-1B26F 1CHARACTER-1B270 1CHARACTER-1B271 1CHARACTER-1B272
    1CHARACTER-1B273 1CHARACTER-1B274 1CHARACTER-1B275 1CHARACTER-1B276 1CHARACTER-1B277
    1CHARACTER-1B278 1CHARACTER-1B279 1CHARACTER-1B27A 1CHARACTER-1B27B 1CHARACTER-1B27C
    1CHARACTER-1B27D 1CHARACTER-1B27E 1CHARACTER-1B27F 1CHARACTER-1B280 1CHARACTER-1B281
    1CHARACTER-1B282 1CHARACTER-1B283 1CHARACTER-1B284 1CHARACTER-1B285 1CHARACTER-1B286
    1CHARACTER-1B287 1CHARACTER-1B288 1CHARACTER-1B289 1CHARACTER-1B28A 1CHARACTER-1B28B
    1CHARACTER-1B28C 1CHARACTER-1B28D 1CHARACTER-1B28E 1CHARACTER-1B28F 1CHARACTER-1B290
    1CHARACTER-1B291 1CHARACTER-1B292 1CHARACTER-1B293 1CHARACTER-1B294 1CHARACTER-1B295
    1CHARACTER-1B296 1CHARACTER-1B297 1CHARACTER-1B298 1CHARACTER-1B299 1CHARACTER-1B29A
    1CHARACTER-1B29B 1CHARACTER-1B29C 1CHARACTER-1B29D 1CHARACTER-1B29E 1CHARACTER-1B29F
    1CHARACTER-1B2A0 1CHARACTER-1B2A1 1CHARACTER-1B2A2 1CHARACTER-1B2A3 1CHARACTER-1B2A4
    1CHARACTER-1B2A5 1CHARACTER-1B2A6 1CHARACTER-1B2A7 1CHARACTER-1B2A8 1CHARACTER-1B2A9
    1CHARACTER-1B2AA 1CHARACTER-1B2AB 1CHARACTER-1B2AC 1CHARACTER-1B2AD 1CHARACTER-1B2AE
    1CHARACTER-1B2AF 1CHARACTER-1B2B0 1CHARACTER-1B2B1 1CHARACTER-1B2B2 1CHARACTER-1B2B3
    1CHARACTER-1B2B4 1CHARACTER-1B2B5 1CHARACTER-1B2B6 1CHARACTER-1B2B7 1CHARACTER-1B2B8
    1CHARACTER-1B2B9 1CHARACTER-1B2BA 1CHARACTER-1B2BB 1CHARACTER-1B2BC 1CHARACTER-1B2BD
    1CHARACTER-1B2BE 1CHARACTER-1B2BF 1CHARACTER-1B2C0 1CHARACTER-1B2C1 1CHARACTER-1B2C2
    1CHARACTER-1B2C3 1CHARACTER-1B2C4 1CHARACTER-1B2C5 1CHARACTER-1B2C6 1CHARACTER-1B2C7
    1CHARACTER-1B2C8 1CHARACTER-1B2C9 1CHARACTER-1B2CA 1CHARACTER-1B2CB 1CHARACTER-1B2CC
    1CHARACTER-1B2CD 1CHARACTER-1B2CE 1CHARACTER-1B2CF 1CHARACTER-1B2D0 1CHARACTER-1B2D1
    1CHARACTER-1B2D2 1CHARACTER-1B2D3 1CHARACTER-1B2D4 1CHARACTER-1B2D5 1CHARACTER-1B2D6
    1CHARACTER-1B2D7 1CHARACTER-1B2D8 1CHARACTER-1B2D9 1CHARACTER-1B2DA 1CHARACTER-1B2DB
    1CHARACTER-1B2DC 1CHARACTER-1B2DD 1CHARACTER-1B2DE 1CHARACTER-1B2DF 1CHARACTER-1B2E0
    1CHARACTER-1B2E1 1CHARACTER-1B2E2 1CHARACTER-1B2E3 1CHARACTER-1B2E4 1CHARACTER-1B2E5
    1CHARACTER-1B2E6 1CHARACTER-1B2E7 1CHARACTER-1B2E8 1CHARACTER-1B2E9 1CHARACTER-1B2EA
    1CHARACTER-1B2EB 1CHARACTER-1B2EC 1CHARACTER-1B2ED 1CHARACTER-1B2EE 1CHARACTER-1B2EF
    1CHARACTER-1B2F0 1CHARACTER-1B2F1 1CHARACTER-1B2F2 1CHARACTER-1B2F3 1CHARACTER-1B2F4
    1CHARACTER-1B2F5 1CHARACTER-1B2F6 1CHARACTER-1B2F7 1CHARACTER-1B2F8 1CHARACTER-1B2F9
    1CHARACTER-1B2FA 1CHARACTER-1B2FB 1ITERATION_MARK 0NUT_AND_BOLT
    0NYIAKENG_PUACHUE_HMONG_CIRCLED_CA 3DIGIT_EIGHT 4FIVE 4FOUR 4NINE 4ONE 4SEVEN 4SIX 4THREE 4TWO
    4ZERO 3LETTER_A 4AA 4CA 4DA 4DLA 4E 4EE 4FA 4GA 4HA 4HAH 4I 4KA 4LA 4MA 4MLA 4NA 4NCA 4NKA 4NPA
    4NPLA 4NQA 4NRA 4NTA 4NTSA 4NTXA 4NYA 4O 4OO 4PA 4PLA 4QA 4RA 4RRA 4SA 4TA 4TSA 4TXA 4U 4VA 4W
    4XA 4XYA 4YA 4ZA 3LOGOGRAM_NYAJ 3SIGN_FOR_ANIMAL 5INVERTEBRATE 5LOCATION 5PERSON 5THING 4XW_XW
    3SYLLABLE_LENGTHENER 3TONE-B 3TONE-D 3TONE-G 3TONE-J 3TONE-M 3TONE-S 3TONE-V
    "),
    ('O', "
    0OBJECT_REPLACEMENT_CHARACTER 0OBLIQUE_ANGLE_OPENING_DOWN 3UP 1HYPHEN 0OBSERVER_EYE_SYMBOL
    0OCR_AMOUNT_OF_CHECK 1BELT_BUCKLE 1BOW_TIE 1BRANCH_BANK_IDENTIFICATION 1CHAIR
    1CUSTOMER_ACCOUNT_NUMBER 1DASH 1DOUBLE_BACKSLASH 1FORK 1HOOK 1INVERTED_FORK 0OCTAGONAL_SIGN
    0OCTOPUS 0ODEN 0OFFICE_BUILDING 0OGHAM_FEATHER_MARK 1LETTER_AILM 2BEITH 2CEIRT 2COLL 2DAIR
    2EABHADH 2EADHADH 2EAMHANCHOLL 2FEARN 2GORT 2IFIN 2IODHADH 2LUIS 2MUIN 2NGEADAL 2NION 2ONN 2OR
    2PEITH 2RUIS 2SAIL 2STRAIF 2TINNE 2UATH 2UILLEANN 2UR 1REVERSED_FEATHER_MARK 1SPACE_MARK 0OGONEK
    0OHM_SIGN 0OIL_DRUM 0OK_HAND_SIGN 0OL_CHIKI_AHAD 2DIGIT_EIGHT 3FIVE 3FOUR 3NINE 3ONE 3SEVEN 3SIX
    3THREE 3TWO 3ZERO 2GAAHLAA_TTUDDAAG 2LETTER_AAJ 3AAK 3AAM 3AAW 3AG 3AL 3ANG 3AT 3EDD 3EN 3EP
    3ERR 3IH 3INY 3IR 3IS 3LA 3LAA 3LE 3LI 3LO 3LU 3OB 3OH 3OTT 3OV 3UC 3UD 3UNN 3UY 2MU_TTUDDAG
    2MU-GAAHLAA_TTUDDAAG 2PHAARKAA 2PUNCTUATION_DOUBLE_MUCAAD 3MUCAAD 2RELAA 0OLD_CHINESE_HOOK_MARK
    2ITERATION_MARK 1HUNGARIAN_CAPITAL_LETTER_A 4AA 4AK 4AMB 4AND 4CLOSE_E 4E 4EB 4EC 4ECH 4ECS 4ED
    4EE 4EF 4EG 4EGY 4EH 4EJ 4EK 4EL 4ELY 4EM 4EMP 4EN 4ENC 4ENT 4ENT-SHAPED_SIGN 4ENY 4EP 4ER 4ES
    4ESZ 4ET 4ETY 4EV 4EZ 4EZS 4I 4II 4NIKOLSBURG_OE 5UE 4O 4OEE 4OO 4RUDIMENTA_OE 5UE 4SHORT_ER 4U
    4UNK 4US 4UU 2NUMBER_FIFTY 3FIVE 3ONE 4HUNDRED 4THOUSAND 3TEN 2SMALL_LETTER_A 4AA 4AK 4AMB 4AND
    4CLOSE_E 4E 4EB 4EC 4ECH 4ECS 4ED 4EE 4EF 4EG 4EGY 4EH 4EJ 4EK 4EL 4ELY 4EM 4EMP 4EN 4ENC 4ENT
    4ENT-SHAPED_SIGN 4ENY 4EP 4ER 4ES 4ESZ 4ET 4ETY 4EV 4EZ 4EZS 4I 4II 4NIKOLSBURG_OE 5UE 4O 4OEE
    4OO 4RUDIMENTA_OE 5UE 4SHORT_ER 4U 4UNK 4US 4UU 1ITALIC_LETTER_A 3BE 3CHE 3DE 3E 3EF 3EKS 3EL
    3EM 3EN 3ER 3ERS 3ES 3ESH 3ESS 3HE 3I 3II 3KA 3KE 3KHE 3KU 3NORTHERN_TSE 3O 3PE 3PHE 3SHE
    3SOUTHERN_TSE 3TE 3THE 3U 3UU 3VE 3YE 3ZE 2NUMERAL_FIFTY 3FIVE 3ONE 3TEN 1KEY
    1NORTH_ARABIAN_LETTER_AIN 4ALEF 4BEH 4DAD 4DAL 4ES-1 4ES-2 4ES-3 4FEH 4GEEM 4GHAIN 4HAH 4HEH
    4KAF 4KHAH 4LAM 4MEEM 4NOON 4QAF 4REH 4SAD 4TAH 4TEH 4THAL 4THEH 4WAW 4YEH 4ZAH 4ZAIN
    3NUMBER_ONE 4TEN 4TWENTY 1PERMIC_LETTER_AN 3BUR 3CHERY 3DOI 3DZHOI 3DZITA 3E 3EF 3GAI 3HA 3I 3IA
    3IE 3KOKE 3LEI 3MENOE 3NENOE 3O 3OO 3PEEI 3REI 3SHCHOOI 3SHOOI 3SII 3TAI 3TSIU 3U 3VER 3VOOI 3YA
    3YAT 3YER 3YERI 3YERU 3YRY 3YU 3ZATA 3ZHOI 1PERSIAN_NUMBER_HUNDRED 3ONE 3TEN 3TWENTY 3TWO
    2SIGN_A 3AURAMAZDAA 3AURAMAZDAA-2 3AURAMAZDAAHA 3BA 3BAGA 3BUUMISH 3CA 3DA 3DAHYAAUSH
    3DAHYAAUSH-2 3DI 3DU 3FA 3GA 3GU 3HA 3I 3JA 3JI 3KA 3KU 3LA 3MA 3MI 3MU 3NA 3NU 3PA 3RA 3RU 3SA
    3SHA 3SSA 3TA 3THA 3TU 3U 3VA 3VI 3XA 3XSHAAYATHIYA 3YA 3ZA 2WORD_DIVIDER 1PERSONAL_COMPUTER
    1SOGDIAN_FRACTION_ONE_HALF 2LETTER_ALEPH 3ALTERNATE_AYIN 3AYIN 3BETH 3FINAL_ALEPH 4BETH 4HE 4NUN
    5WITH_VERTICAL_TAIL 4SADHE 5WITH_VERTICAL_TAIL 4TAW 5WITH_VERTICAL_TAIL 3GIMEL 3HE 3HETH 3KAPH
    3LAMEDH 3MEM 3NUN 3PE 3RESH-AYIN-DALETH 3SADHE 3SAMEKH 3SHIN 3TAW 3WAW 3YODH 3ZAYIN
    2LIGATURE_AYIN-DALETH 2NUMBER_FIVE 3FOUR 3ONE 4HUNDRED 3TEN 3THIRTY 3THREE 3TWENTY 3TWO
    1SOUTH_ARABIAN_LETTER_ALEF 4AYN 4BETH 4DALETH 4DHADHE 4DHALETH 4FE 4GHAYN 4GIMEL 4HE 4HETH 4KAPH
    4KHETH 4LAMEDH 4MEM 4NUN 4QOPH 4RESH 4SADHE 4SAMEKH 4SAT 4SHIN 4TAW 4TETH 4THAW 4THETH 4WAW
    4YODH 4ZAYN 3NUMBER_FIFTY 4ONE 3NUMERIC_INDICATOR 1TURKIC_LETTER_ORKHON_A 4AB 4AD 4AEB 4AED 4AEG
    4AEK 4AEL 4AEN 4AER 4AES 4AET 4AEY 4AG 4AL 4AN 4AQ 4AR 4AS 4ASH 4AT 4AY 4BASH 4EC 4ELT 4EM 4ENC
    4ENG 4ENT 4ENY 4EP 4ESH 4EZ 4I 4IC 4IQ 4O 4OE 4OEK 4OP 4OQ 4OT 3YENISEI_A 4AB 4AD 4AE 4AEB 4AEG
    4AEK 4AEN 4AENG 4AET 4AEY 4AG 4AL 4ANG 4AQ 4AR 4ASH 4AT 4AY 4E 4EC 4ENC 4ENT 4ENY 4ESH 4EZ 4I
    4IQ 4OE 4OEK 4OQ 1UYGHUR_COMBINING_DOT_ABOVE 4BELOW 3TWO_DOTS_ABOVE 5BELOW 2LETTER_ALEPH 3BETH
    3FINAL_HETH 3GIMEL-HETH 3KAPH 3LAMEDH 3LESH 3MEM 3NUN 3PE 3RESH 3SADHE 3SAMEKH 3SHIN 3TAW 3WAW
    3YODH 3ZAYIN 2PUNCTUATION_BAR 3FOUR_DOTS 3TWO_BARS 4DOTS 0OLDER_ADULT 1MAN 1WOMAN 0OLIVE
    0OM_SYMBOL 0ON_WITH_EXCLAMATION_MARK_WITH_LEFT_RIGHT_ARROW_ABOVE 0ONCOMING_AUTOMOBILE 1BUS
    1FIRE_ENGINE 1POLICE_CAR 1TAXI 0ONE_BUTTON_MOUSE 1DOT_LEADER 2OVER_TWO_DOTS_PUNCTUATION
    0ONE-PIECE_SWIMSUIT 0ONION 0OPEN_BOOK 1BOX 1CENTRE_ASTERISK 2BLACK_STAR 2CROSS
    2TEARDROP-SPOKED_ASTERISK 1FILE_FOLDER 1FOLDER 1HANDS_SIGN 1LOCK 1MAILBOX_WITH_LOWERED_FLAG
    3RAISED_FLAG 1SUBSET 1SUPERSET 0OPEN-CIRCUIT-OUTPUT_H-TYPE_SYMBOL 1L-TYPE_SYMBOL
    0OPEN-OUTLINED_RIGHTWARDS_ARROW 0OPERATING_SYSTEM_COMMAND 0OPHIUCHUS 0OPPOSITION 0OPTICAL_DISC
    2ICON 0OPTION_KEY 0OR_WITH_DOT_INSIDE 0ORANGE_BOOK 1HEART 0ORANGUTAN 0ORIGINAL_OF
    0ORIYA_AI_LENGTH_MARK 1AU_LENGTH_MARK 1DIGIT_EIGHT 2FIVE 2FOUR 2NINE 2ONE 2SEVEN 2SIX 2THREE
    2TWO 2ZERO 1FRACTION_ONE_EIGHTH 3HALF 3QUARTER 3SIXTEENTH 2THREE_QUARTERS 3SIXTEENTHS 1ISSHAR
    1LETTER_A 2AA 2AI 2AU 2BA 2BHA 2CA 2CHA 2DA 2DDA 2DDHA 2DHA 2E 2GA 2GHA 2HA 2I 2II 2JA 2JHA 2KA
    2KHA 2LA 2LLA 2MA 2NA 2NGA 2NNA 2NYA 2O 2PA 2PHA 2RA 2RHA 2RRA 2SA 2SHA 2SSA 2TA 2THA 2TTA 2TTHA
    2U 2UU 2VA 2VOCALIC_L 3LL 3R 3RR 2WA 2YA 2YYA 1SIGN_ANUSVARA 2AVAGRAHA 2CANDRABINDU 2NUKTA
    2OVERLINE 2VIRAMA 2VISARGA 1VOWEL_SIGN_AA 3AI 3AU 3E 3I 3II 3O 3U 3UU 3VOCALIC_L 4LL 4R 4RR
    0ORNATE_LEFT_PARENTHESIS 1RIGHT_PARENTHESIS 0ORTHODOX_CROSS 0OSAGE_CAPITAL_LETTER_A 3AH 3AI 3AIN
    3BRA 3CHA 3DHA 3E 3EHCHA 3EHKA 3EHPA 3EHTA 3EHTSA 3EIN 3GHA 3HA 3HYA 3I 3KA 3KHA 3KYA 3LA 3MA
    3NA 3O 3OIN 3PA 3SA 3SHA 3TA 3TSA 3TSHA 3U 3WA 3ZA 3ZHA 1SMALL_LETTER_A 3AH 3AI 3AIN 3BRA 3CHA
    3DHA 3E 3EHCHA 3EHKA 3EHPA 3EHTA 3EHTSA 3EIN 3GHA 3HA 3HYA 3I 3KA 3KHA 3KYA 3LA 3MA 3NA 3O 3OIN
    3PA 3SA 3SHA 3TA 3TSA 3TSHA 3U 3WA 3ZA 3ZHA 0OSC 0OSMANYA_DIGIT_EIGHT 2FIVE 2FOUR 2NINE 2ONE
    2SEVEN 2SIX 2THREE 2TWO 2ZERO 1LETTER_A 2AA 2ALEF 2BA 2CAYN 2DEEL 2DHA 2E 2EE 2FA 2GA 2HA 2I 2JA
    2KAAF 2KHA 2LAAN 2MIIN 2NUUN 2O 2OO 2QAAF 2RA 2SA 2SHIIN 2TA 2U 2WAW 2XA 2YA 0OTTER
    0OTTOMAN_SIYAQ_ALTERNATE_NUMBER_EIGHT 4FIVE 4FOUR 5HUNDRED 4NINE 4SEVEN 4SIX 5HUNDRED 4TEN
    5THOUSAND 4THREE 4TWO 5THOUSAND 2FRACTION_ONE_HALF 4SIXTH 2MARRATAN 2NUMBER_EIGHT 4HUNDRED
    4THOUSAND 3EIGHTY 4THOUSAND 3FIFTY 4THOUSAND 3FIVE 4HUNDRED 4THOUSAND 3FORTY 4THOUSAND 3FOUR
    4HUNDRED 4THOUSAND 3NINE 4HUNDRED 4THOUSAND 3NINETY 4THOUSAND 3ONE 4HUNDRED 4THOUSAND 3SEVEN
    4HUNDRED 4THOUSAND 3SEVENTY 4THOUSAND 3SIX 4HUNDRED 4THOUSAND 3SIXTY 4THOUSAND 3TEN 4THOUSAND
    3THIRTY 4THOUSAND 3THREE 4HUNDRED 4THOUSAND 3TWENTY 4THOUSAND 3TWO 4HUNDRED 4THOUSAND
    0OUNCE_SIGN 0OUTBOX_TRAY 0OUTLINED_BLACK_STAR 1GREEK_CROSS 1LATIN_CROSS 1WHITE_STAR
    0OVERHEATED_FACE 0OVERLAP 0OVERLAPPING_BLACK_SQUARES 1WHITE_AND_BLACK_SQUARES 2SQUARES 0OVERLINE
    0OWL 0OX 0OYSTER
    "),
    ('P', "
    0PACKAGE 0PAD 0PADDING_CHARACTER 0PAGE 1FACING_UP 1WITH_CIRCLED_TEXT 2CURL 0PAGER 0PAGES 0PAGODA
    0PAHAWH_HMONG_CLAN_SIGN_FAJ 4HAM 4HAWJ 4KHAB 4KOO 4KWM 4LAUJ 4LIS 4MUAS 4PHAB 4THOJ 4TSAB
    4TSHEEJ 4TSWB 4VAJ 4VWJ 4XYOOJ 4YAJ 4YEEG 2CONSONANT_AU 3CAU 3CHAU 3HAU 3HLAU 3HNAU 3LAU 3MAU
    3NAU 3NCHAU 3NKAU 3NLAU 3NTHAU 3NTSAU 3PLHAU 3QHAU 3RAU 3VAU 3XAU 3YAU 2DIGIT_EIGHT 3FIVE 3FOUR
    3NINE 3ONE 3SEVEN 3SIX 3THREE 3TWO 3ZERO 2MARK_CIM_HOM 4KES 4KHAV 4SO 4SUAM 4TAUM 4TUB
    2NUMBER_HUNDRED_MILLIONS 3HUNDREDS 3MILLIONS 3TEN_BILLIONS 4THOUSANDS 3TENS 3TRILLIONS 2SIGN_AV
    3CIM_CHEEM 4CUAM_TSHOOJ 4HAIS_LUS_NTOG_NTOG 4NRES_TOS 4PUB_DAWB 4TSOV_ROG 4TXWV 5CHWV 3HLI 3HNUB
    3IB_YAM 3LOS 3MEEJ_SUAB 4TSEEB 3MUS 3NQIG 3NTUJ 3TAU 3THIRD-STAGE_HLI 3TXHEEJ_CEEV 3VOS_FEEM
    4LUB 4NRUA 4SEEV 4THIAB 4THOM 4TSHAB_CEEB 3XAUS 3XIAB 3XYEEM_FAIB 4NTXIV 4RHO 4TOV 3XYOO
    3ZWJ_THAJ 2VOWEL_KAAB 3KAAV 3KAB 3KAIB 3KAIV 3KAUB 3KAUV 3KAV 3KAWB 3KAWV 3KEB 3KEEB 3KEEV 3KEV
    3KIAB 3KIAV 3KIB 3KIV 3KOB 3KOOB 3KOOV 3KOV 3KUAB 3KUAV 3KUB 3KUV 3KWB 3KWV 0PALLAS 0PALM_BRANCH
    1DOWN_HAND 1TREE 1UP_HAND 0PALMS_UP_TOGETHER 0PALMYRENE_LEFT-POINTING_FLEURON 1LETTER_ALEPH
    2AYIN 2BETH 2DALETH 2FINAL_NUN 2GIMEL 2HE 2HETH 2KAPH 2LAMEDH 2MEM 2NUN 2PE 2QOPH 2RESH 2SADHE
    2SAMEKH 2SHIN 2TAW 2TETH 2WAW 2YODH 2ZAYIN 1NUMBER_FIVE 2FOUR 2ONE 2TEN 2THREE 2TWENTY 2TWO
    1RIGHT-POINTING_FLEURON 0PANCAKES 0PANDA_FACE 0PAPERCLIP 0PARACHUTE 0PARAGRAPH_SEPARATOR
    0PARAGRAPHOS 0PARAGRAPHUS_MARK 0PARALLEL_TO 1WITH_HORIZONTAL_STROKE 2TILDE_OPERATOR
    0PARENTHESIZED_DIGIT_EIGHT 2FIVE 2FOUR 2NINE 2ONE 2SEVEN 2SIX 2THREE 2TWO 1HANGUL_CHIEUCH 3A
    2CIEUC 3A 3U 2HIEUH 3A 2IEUNG 3A 2KHIEUKH 3A 2KIYEOK 3A 2MIEUM 3A 2NIEUN 3A 2PHIEUPH 3A 2PIEUP
    3A 2RIEUL 3A 2SIOS 3A 2THIEUTH 3A 2TIKEUT 3A 1IDEOGRAPH_ALLIANCE 2CALL 2CONGRATULATION 2EARTH
    2EIGHT 2ENTERPRISE 2FESTIVAL 2FINANCIAL 2FIRE 2FIVE 2FOUR 2HAVE 2LABOR 2METAL 2MOON 2NAME 2NINE
    2ONE 2REACH 2REPRESENT 2RESOURCE 2REST 2SELF 2SEVEN 2SIX 2SOCIETY 2SPECIAL 2STOCK 2STUDY 2SUN
    2SUPERVISE 2TEN 2THREE 2TWO 2WATER 2WOOD 1KOREAN_CHARACTER_O_HU 3OJEON 1LATIN_CAPITAL_LETTER_A
    4B 4C 4D 4E 4F 4G 4H 4I 4J 4K 4L 4M 4N 4O 4P 4Q 4R 4S 4T 4U 4V 4W 4X 4Y 4Z 2SMALL_LETTER_A 4B 4C
    4D 4E 4F 4G 4H 4I 4J 4K 4L 4M 4N 4O 4P 4Q 4R 4S 4T 4U 4V 4W 4X 4Y 4Z 1NUMBER_EIGHTEEN 2ELEVEN
    2FIFTEEN 2FOURTEEN 2NINETEEN 2SEVENTEEN 2SIXTEEN 2TEN 2THIRTEEN 2TWELVE 2TWENTY 0PARROT
    0PART_ALTERNATION_MARK 0PARTIAL_DIFFERENTIAL 1LINE_BACKWARD 2DOWN 2FORWARD 2UP
    0PARTIALLY-RECYCLED_PAPER_SYMBOL 0PARTNERSHIP_SIGN 0PARTY_POPPER 0PASSED_SYMBOL 0PASSENGER_SHIP
    0PASSIVE-PULL-DOWN-OUTPUT_SYMBOL 0PASSIVE-PULL-UP-OUTPUT_SYMBOL 0PASSPORT_CONTROL
    0PAU_CIN_HAU_GLOTTAL_STOP 5FINAL 5VARIANT 3LETTER_A 4BA 4CA 4CHA 4DA 4E 4FA 4FINAL_K 5L 5M 5N
    5NG 5P 5T 5W 5Y 4GA 4HA 4I 4IA 4KA 4KHA 4LA 4MA 4NA 4NGA 4O 4PA 4PHA 4RA 4SA 4TA 4THA 4U 4UA 4VA
    4ZA 3LOW-FALLING_TONE 5FINAL 5LONG 6FINAL 3MID-LEVEL_TONE 5FINAL 5LONG_FINAL 3RISING_TONE 5FINAL
    5LONG 6FINAL 3SANDHI_GLOTTAL_STOP 6FINAL 4TONE 5FINAL 5LONG 6FINAL 0PAW_PRINTS 0PDF 0PDI
    0PEACE_SYMBOL 0PEACH 0PEACOCK 0PEANUTS 0PEAR 0PEDESTRIAN 0PEN_OVER_STAMPED_ENVELOPE 0PENCIL
    0PENGUIN 0PENSIVE_FACE 0PENTAGRAM 0PEOPLE_HUGGING 0PER_MILLE_SIGN 1SIGN 1TEN_THOUSAND_SIGN
    0PERCENT_SIGN 0PERFORMING_ARTS 0PERMANENT_PAPER_SIGN 0PERPENDICULAR 1WITH_S 0PERSEVERING_FACE
    0PERSON_BOWING_DEEPLY 1CLIMBING 1DOING_CARTWHEEL 1FROWNING 1IN_LOTUS_POSITION 2STEAMY_ROOM
    1RAISING_BOTH_HANDS_IN_CELEBRATION 1WITH_BALL 2BLOND_HAIR 2CROWN 2FOLDED_HANDS 2HEADSCARF
    2POUTING_FACE 0PERSONAL_COMPUTER 0PERSPECTIVE 0PESETA_SIGN 0PESO_SIGN 0PETRI_DISH
    0PHAGS-PA_DOUBLE_HEAD_MARK 1LETTER_A 2ALTERNATE_YA 2ASPIRATED_FA 2BA 2CA 2CANDRABINDU 2CHA 2DA
    2DDA 2DZA 2E 2EE 2FA 2GA 2GGA 2HA 2I 2JA 2KA 2KHA 2LA 2MA 2NA 2NGA 2NNA 2NYA 2O 2PA 2PHA 2QA 2RA
    2SA 2SHA 2SMALL_A 2TA 2THA 2TSA 2TSHA 2TTA 2TTHA 2U 2VOICED_HA 2VOICELESS_SHA 2WA 2XA 2YA 2ZA
    2ZHA 1MARK_DOUBLE_SHAD 2SHAD 1SINGLE_HEAD_MARK 1SUBJOINED_LETTER_RA 3WA 3YA
    1SUPERFIXED_LETTER_RA 0PHAISTOS_DISC_SIGN_ARROW 3BEE 3BEEHIVE 3BOOMERANG 3BOW 3BULLS_LEG
    3CAPTIVE 3CARPENTRY_PLANE 3CAT 3CHILD 3CLUB 3COLUMN 3COMB 3COMBINING_OBLIQUE_STROKE 3DOLIUM
    3DOVE 3EAGLE 3FLUTE 3GAUNTLET 3GRATER 3HELMET 3HIDE 3HORN 3LID 3LILY 3MANACLES 3MATTOCK 3OX_BACK
    3PAPYRUS 3PEDESTRIAN 3PLANE_TREE 3PLUMED_HEAD 3RAM 3ROSETTE 3SAW 3SHIELD 3SHIP 3SLING 3SMALL_AXE
    3STRAINER 3TATTOOED_HEAD 3TIARA 3TUNNY 3VINE 3WAVY_BAND 3WOMAN 0PHILIPPINE_DOUBLE_PUNCTUATION
    1SINGLE_PUNCTUATION 0PHOENICIAN_LETTER_AIN 2ALF 2BET 2DELT 2GAML 2HE 2HET 2KAF 2LAMD 2MEM 2NUN
    2PE 2QOF 2ROSH 2SADE 2SEMK 2SHIN 2TAU 2TET 2WAU 2YOD 2ZAI 1NUMBER_ONE 3HUNDRED 2TEN 2THREE
    2TWENTY 2TWO 1WORD_SEPARATOR 0PHOLUS 0PICK 0PICKUP_TRUCK 0PIE 0PIG 1FACE 1NOSE 0PILCROW_SIGN
    0PILE_OF_POO 0PILL 0PINATA 0PINCHED_FINGERS 0PINCHING_HAND 0PINE_DECORATION 0PINEAPPLE
    0PINWHEEL_STAR 0PISCES 0PISTOL 0PITCHFORK 1WITH_TEE_TOP 0PLACARD 0PLACE_OF_INTEREST_SIGN
    2WORSHIP 0PLANCK_CONSTANT 2OVER_TWO_PI 0PLAYGROUND_SLIDE 0PLAYING_CARD_ACE_OF_CLUBS 4DIAMONDS
    4HEARTS 4SPADES 2BACK 2BLACK_JOKER 2EIGHT_OF_CLUBS 4DIAMONDS 4HEARTS 4SPADES 2FIVE_OF_CLUBS
    4DIAMONDS 4HEARTS 4SPADES 2FOOL 2FOUR_OF_CLUBS 4DIAMONDS 4HEARTS 4SPADES 2JACK_OF_CLUBS
    4DIAMONDS 4HEARTS 4SPADES 2KING_OF_CLUBS 4DIAMONDS 4HEARTS 4SPADES 2KNIGHT_OF_CLUBS 4DIAMONDS
    4HEARTS 4SPADES 2NINE_OF_CLUBS 4DIAMONDS 4HEARTS 4SPADES 2QUEEN_OF_CLUBS 4DIAMONDS 4HEARTS
    4SPADES 2RED_JOKER 2SEVEN_OF_CLUBS 4DIAMONDS 4HEARTS 4SPADES 2SIX_OF_CLUBS 4DIAMONDS 4HEARTS
    4SPADES 2TEN_OF_CLUBS 4DIAMONDS 4HEARTS 4SPADES 2THREE_OF_CLUBS 4DIAMONDS 4HEARTS 4SPADES
    2TRUMP-1 2TRUMP-10 2TRUMP-11 2TRUMP-12 2TRUMP-13 2TRUMP-14 2TRUMP-15 2TRUMP-16 2TRUMP-17
    2TRUMP-18 2TRUMP-19 2TRUMP-2 2TRUMP-20 2TRUMP-21 2TRUMP-3 2TRUMP-4 2TRUMP-5 2TRUMP-6 2TRUMP-7
    2TRUMP-8 2TRUMP-9 2TWO_OF_CLUBS 4DIAMONDS 4HEARTS 4SPADES 2WHITE_JOKER 0PLD 0PLU 0PLUNGER
    0PLUS_SIGN 2ABOVE_EQUALS_SIGN 2IN_LEFT_HALF_CIRCLE 3RIGHT_HALF_CIRCLE 3TRIANGLE
    2WITH_BLACK_TRIANGLE 3CIRCUMFLEX_ACCENT_ABOVE 3DOT_BELOW 3SMALL_CIRCLE_ABOVE 3SUBSCRIPT_TWO
    3TILDE_ABOVE 4BELOW 0PLUS-MINUS_SIGN 0PLUTO 1FORM_FIVE 2FOUR 2THREE 2TWO 0PM 0POCKET_CALCULATOR
    0POLICE_CAR 1CARS_REVOLVING_LIGHT 1OFFICER 0POODLE 0POP_DIRECTIONAL_FORMATTING 2ISOLATE 0POPCORN
    0PORTABLE_STEREO 0POSEIDON 0POSITION_INDICATOR 0POSTAL_HORN 1MARK 2FACE 0POSTBOX 0POT_OF_FOOD
    0POTABLE_WATER_SYMBOL 0POTATO 0POTTED_PLANT 0POUCH 0POULTRY_LEG 0POUND_SIGN 0POURING_LIQUID
    0POUTING_CAT_FACE 1FACE 0POWER_ON_SYMBOL 1ON-OFF_SYMBOL 1SLEEP_SYMBOL 1SYMBOL 0PRAYER_BEADS
    0PRECEDES 1ABOVE_ALMOST_EQUAL_TO 2EQUALS_SIGN 2NOT_ALMOST_EQUAL_TO 3EQUAL_TO
    2SINGLE-LINE_EQUALS_SIGN 3NOT_EQUAL_TO 1BUT_NOT_EQUIVALENT_TO 1OR_EQUAL_TO 2EQUIVALENT_TO
    1UNDER_RELATION 0PREGNANT_MAN 1PERSON 1WOMAN 0PRESCRIPTION_TAKE
    0PRESENTATION_FORM_FOR_VERTICAL_COLON 4COMMA 4EM_DASH 4EN_DASH 4EXCLAMATION_MARK
    4HORIZONTAL_ELLIPSIS 4IDEOGRAPHIC_COMMA 5FULL_STOP 4LEFT_ANGLE_BRACKET 5BLACK_LENTICULAR_BRACKET
    5CORNER_BRACKET 5CURLY_BRACKET 5DOUBLE_ANGLE_BRACKET 5PARENTHESIS 5SQUARE_BRACKET
    5TORTOISE_SHELL_BRACKET 5WHITE_CORNER_BRACKET 6LENTICULAR_BRACKET 4LOW_LINE 4QUESTION_MARK
    4RIGHT_ANGLE_BRACKET 5BLACK_LENTICULAR_BRACKET 5CORNER_BRACKET 5CURLY_BRACKET
    5DOUBLE_ANGLE_BRACKET 5PARENTHESIS 5SQUARE_BRACKET 5TORTOISE_SHELL_BRACKET 5WHITE_CORNER_BRACKET
    6LENTICULAR_BRACKET 7BRAKCET 4SEMICOLON 4TWO_DOT_LEADER 4WAVY_LOW_LINE 0PRETZEL 0PREVIOUS_PAGE
    0PRIME 0PRINCE 0PRINCESS 0PRINT_SCREEN_SYMBOL 0PRINTER 1ICON 0PRIVACY_MESSAGE 0PRIVATE_USE_ONE
    2TWO 1USE-1 1USE-2 0PROBING_CANE 0PROHIBITED_SIGN 0PROJECTIVE 0PROPERTY_LINE 0PROPORTION
    0PROPORTIONAL_TO 0PROSERPINA 0PSALTER_PAHLAVI_FOUR_DOTS_WITH_CROSS 5DOT 2LETTER_ALEPH 3BETH
    3DALETH 3GIMEL 3HE 3HETH 3KAPH 3LAMEDH 3MEM-QOPH 3NUN 3PE 3SADHE 3SAMEKH 3SHIN 3TAW
    3WAW-AYIN-RESH 3YODH 3ZAYIN 2NUMBER_FOUR 3ONE 4HUNDRED 3TEN 3THREE 3TWENTY 3TWO 2SECTION_MARK
    2TURNED_SECTION_MARK 0PU1 0PU2 0PUBLIC_ADDRESS_LOUDSPEAKER 0PUNCTUATION_SPACE
    0PUNCTUS_ELEVATUS_MARK 0PURPLE_HEART 0PURSE 0PUSHPIN 0PUT_LITTER_IN_ITS_PLACE_SYMBOL
    "),
    ('Q', "
    0QUADRANT_LOWER_LEFT 2RIGHT 1UPPER_LEFT 3AND_LOWER_LEFT_AND_LOWER_RIGHT 5RIGHT
    4UPPER_RIGHT_AND_LOWER_LEFT 8RIGHT 2RIGHT 3AND_LOWER_LEFT 6AND_LOWER_RIGHT
    0QUADRUPLE_INTEGRAL_OPERATOR 1PRIME 0QUARTER_NOTE 0QUATERNION_INTEGRAL_OPERATOR
    0QUESTION_EXCLAMATION_MARK 1MARK 0QUESTIONED_EQUAL_TO 0QUINCUNX 0QUOTATION_MARK
    "),
    ('R', "
    0RABBIT 1FACE 0RACCOON 0RACING_CAR 1MOTORCYCLE 0RADICAL_SYMBOL_BOTTOM 0RADIO 1BUTTON
    0RADIOACTIVE_SIGN 0RAILWAY_CAR 1TRACK 0RAIN 0RAINBOW 0RAISED_BACK_OF_HAND 1COMMA 1DOT
    1DOTTED_INTERPOLATION_MARKER 1FIST 1HAND 2WITH_FINGERS_SPLAYED
    3PART_BETWEEN_MIDDLE_AND_RING_FINGERS 1INTERPOLATION_MARKER 1MC_SIGN 1MD_SIGN 1MR_SIGN 1SQUARE
    0RAM 0RAT 0RATIO 0RAZOR 0RECEIPT 0RECORD_SEPARATOR 0RECREATIONAL_VEHICLE 0RECYCLED_PAPER_SYMBOL
    0RECYCLING_SYMBOL_FOR_GENERIC_MATERIALS 3TYPE-1_PLASTICS 3TYPE-2_PLASTICS 3TYPE-3_PLASTICS
    3TYPE-4_PLASTICS 3TYPE-5_PLASTICS 3TYPE-6_PLASTICS 3TYPE-7_PLASTICS 0RED_APPLE 1GIFT_ENVELOPE
    0REFERENCE_MARK 0REGIONAL_INDICATOR_SYMBOL_LETTER_A 4B 4C 4D 4E 4F 4G 4H 4I 4J 4K 4L 4M 4N 4O 4P
    4Q 4R 4S 4T 4U 4V 4W 4X 4Y 4Z 0REGISTERED_SIGN 0REJANG_CONSONANT_SIGN_H 3N 3NG 3R 1LETTER_A 2BA
    2CA 2DA 2GA 2HA 2JA 2KA 2LA 2MA 2MBA 2NA 2NDA 2NGA 2NGGA 2NYA 2NYJA 2PA 2RA 2SA 2TA 2WA 2YA
    1SECTION_MARK 1VIRAMA 1VOWEL_SIGN_AI 3AU 3E 3EA 3EU 3I 3O 3U 0RELIEVED_FACE 0REMINDER_RIBBON
    0REPLACEMENT_CHARACTER 0RESPONSE 0RESTRICTED_LEFT_ENTRY-1 2ENTRY-2 0RESTROOM 0RETURN_LEFT 1RIGHT
    1SYMBOL 0REVERSE_CHECKER_BOARD 1INDEX 1LIGHT_FOUR_POINTED_PINWHEEL_STAR 1LINE_FEED 1SOLIDUS
    2OPERATOR 2PRECEDING_SUBSET 2WITH_HORIZONTAL_STROKE 1TILDE_OPERATOR_ABOVE_LEFTWARDS_ARROW
    4RIGHTWARDS_ARROW 0REVERSED_ANGLE 2WITH_UNDERBAR 1COMMA 1DOUBLE_PRIME 3QUOTATION_MARK
    2STROKE_NOT_SIGN 1EMPTY_SET 1FORKED_PARAGRAPHOS 1HAND_WITH_MIDDLE_FINGER_EXTENDED 1NOT_SIGN
    1PILCROW_SIGN 1PRIME 1QUESTION_MARK 1RAISED_HAND_WITH_FINGERS_SPLAYED 1RIGHT_ANGLE
    1ROTATED_FLORAL_HEART_BULLET 1SANS-SERIF_CAPITAL_L 1SEMICOLON 1THUMBS_DOWN_SIGN 2UP_SIGN 1TILDE
    2EQUALS 1TRIPLE_PRIME 1VICTORY_HAND 0REVOLVING_HEARTS 0RHINOCEROS 0RI 0RIAL_SIGN 0RIBBON
    1ARROW_DOWN_LEFT 3RIGHT 2LEFT_DOWN 3UP 2RIGHT_DOWN 3UP 2UP_LEFT 3RIGHT 0RICE_BALL 1CRACKER
    0RIFLE 0RIGHT_AND_LOWER_ONE_EIGHTH_BLOCK 2UPPER_ONE_EIGHTH_BLOCK 1ANGER_BUBBLE 1ANGLE 2BRACKET
    3WITH_DOT 2DOTTED_SUBSTITUTION_MARKER 2SUBSTITUTION_MARKER 2VARIANT_WITH_SQUARE 2WITH_ARC
    3DOWNWARDS_ZIGZAG_ARROW 1ARC_GREATER-THAN_BRACKET 1ARROW_WITH_CIRCLED_PLUS 3SMALL_CIRCLE
    1BLACK_LENTICULAR_BRACKET 2TORTOISE_SHELL_BRACKET 1CEILING 1CORNER_BRACKET 1CURLY_BRACKET
    3LOWER_HOOK 3MIDDLE_PIECE 3UPPER_HOOK 1DOTTED_SUBSTITUTION_BRACKET 1DOUBLE_ANGLE_BRACKET
    2ARROW_WITH_ROUNDED_HEAD 2PARENTHESIS 2QUOTATION_MARK 2WIGGLY_FENCE 1FISH_TAIL
    1FIVE_EIGHTHS_BLOCK 1FLOOR 1HALF_BLACK_CIRCLE 3STAR 2BLOCK 2FOLDER 2MEDIUM_SHADE 2RUNNING_MAN
    1HAND_TELEPHONE_RECEIVER 1LOW_PARAPHRASE_BRACKET 1NORMAL_FACTOR_SEMIDIRECT_PRODUCT
    1ONE_EIGHTH_BLOCK 2QUARTER_BLOCK 1OPEN_SQUARED_DOT 1OUTER_JOIN 1PARENTHESIS 2EXTENSION
    2LOWER_HOOK 2UPPER_HOOK 1RAISED_OMISSION_BRACKET 1S-SHAPED_BAG_DELIMITER 1SEMIDIRECT_PRODUCT
    1SEVEN_EIGHTHS_BLOCK 1SIDEWAYS_U_BRACKET 1SINGLE_QUOTATION_MARK 1SPEAKER 2WITH_ONE_SOUND_WAVE
    3THREE_SOUND_WAVES 1SPEECH_BUBBLE 1SQUARE_BRACKET 3EXTENSION 3LOWER_CORNER 3UPPER_CORNER
    3WITH_DOUBLE_STROKE 4QUILL 4STROKE 4TICK_IN_BOTTOM_CORNER 6TOP_CORNER 4UNDERBAR
    1SUBSTITUTION_BRACKET 1TACK 1THIRD_WHITE_RIGHT_POINTING_INDEX 1THOUGHT_BUBBLE
    1THREE_EIGHTHS_BLOCK 2QUARTERS_BLOCK 1TORTOISE_SHELL_BRACKET 1TRANSPOSITION_BRACKET 1TRIANGLE
    2ABOVE_LEFT_TRIANGLE 1TRIANGULAR_ONE_QUARTER_BLOCK 1VERTICAL_BAR_WITH_QUILL 2BOX_LINE
    1WHITE_CORNER_BRACKET 2CURLY_BRACKET 2LENTICULAR_BRACKET 2PARENTHESIS 2SQUARE_BRACKET
    2TORTOISE_SHELL_BRACKET 1WIGGLY_FENCE 0RIGHT-FACING_ARMENIAN_ETERNITY_SIGN 1FIST 1SVASTI_SIGN
    3WITH_DOTS 0RIGHT-HANDED_INTERLACED_PENTAGRAM 0RIGHT-POINTING_ANGLE_BRACKET
    1CURVED_ANGLE_BRACKET 1DOUBLE_ANGLE_QUOTATION_MARK 1MAGNIFYING_GLASS
    0RIGHT-SHADED_WHITE_RIGHTWARDS_ARROW 0RIGHT-SIDE_ARC_CLOCKWISE_ARROW 0RIGHT-TO-LEFT_EMBEDDING
    1ISOLATE 1MARK 1OVERRIDE 0RIGHTHAND_INTERIOR_PRODUCT 0RIGHTWARDS_ARROW 2ABOVE_ALMOST_EQUAL_TO
    3REVERSE_ALMOST_EQUAL_TO 4TILDE_OPERATOR 3SHORT_LEFTWARDS_ARROW 3TILDE_OPERATOR
    2AND_UPPER_AND_LOWER_ONE_EIGHTH_BLOCK 2FROM_BAR 4TO_BLACK_DIAMOND 2OVER_LEFTWARDS_ARROW
    2THROUGH_GREATER-THAN 3SUPERSET 3X 2TO_BAR 3BLACK_DIAMOND 2WITH_CORNER_DOWNWARDS 3DOTTED_STEM
    3DOUBLE_VERTICAL_STROKE 3EQUILATERAL_ARROWHEAD 3HOOK 3LARGE_TRIANGLE_ARROWHEAD 3LOOP
    3MEDIUM_TRIANGLE_ARROWHEAD 3NOTCHED_TAIL 3PLUS_BELOW 3SMALL_EQUILATERAL_ARROWHEAD
    4TRIANGLE_ARROWHEAD 3STROKE 3TAIL 4WITH_DOUBLE_VERTICAL_STROKE 5VERTICAL_STROKE 3TIP_DOWNWARDS
    4UPWARDS 3VERTICAL_STROKE 1ARROW-TAIL 1BACK-TILTED_SHADOWED_WHITE_ARROW 1BLACK_ARROW
    2CIRCLED_WHITE_ARROW 1BOTTOM_SHADED_WHITE_ARROW 1COMPRESSED_ARROW 1DASHED_ARROW 1DOUBLE_ARROW
    3FROM_BAR 3WITH_STROKE 4VERTICAL_STROKE 2ARROW-TAIL 2DASH_ARROW 1FINGER-POST_ARROW
    1FRONT-TILTED_SHADOWED_WHITE_ARROW 1HAND 1HARPOON_OVER_LEFTWARDS_HARPOON
    2WITH_BARB_DOWN_ABOVE_LEFTWARDS_HARPOON_WITH_BARB_DOWN 5BELOW_LONG_DASH 5FROM_BAR 5TO_BAR
    4DOWNWARDS 4UP_ABOVE_LEFTWARDS_HARPOON_WITH_BARB_UP 6LONG_DASH
    6RIGHTWARDS_HARPOON_WITH_BARB_DOWN 5FROM_BAR 5TO_BAR 4UPWARDS 1HEAVY_ARROW 2COMPRESSED_ARROW
    1LEFT-SHADED_WHITE_ARROW 1OPEN-HEADED_ARROW 1PAIRED_ARROWS 1QUADRUPLE_ARROW
    1RIGHT-SHADED_WHITE_ARROW 1ROCKET 1SANS-SERIF_ARROW 1SQUARED_ARROW 1SQUIGGLE_ARROW
    1TOP_SHADED_WHITE_ARROW 1TRIANGLE_ARROWHEAD 1TRIANGLE-HEADED_ARROW
    3OVER_LEFTWARDS_TRIANGLE-HEADED_ARROW 3TO_BAR 3WITH_BOLD_SHAFT 4DOUBLE_HORIZONTAL_STROKE
    5VERTICAL_STROKE 4HEAVY_SHAFT 4LONG_TIP_DOWNWARDS 6UPWARDS 4MEDIUM_SHAFT 4NARROW_SHAFT
    4VERY_HEAVY_SHAFT 2DASHED_ARROW 2PAIRED_ARROWS 1TRIPLE_ARROW 2DASH_ARROW 1TWO_HEADED_ARROW
    1TWO-HEADED_ARROW_FROM_BAR 3WITH_DOUBLE_VERTICAL_STROKE 4TAIL 5WITH_DOUBLE_VERTICAL_STROKE
    6VERTICAL_STROKE 4TRIANGLE_ARROWHEADS 4VERTICAL_STROKE 2TRIPLE_DASH_ARROW 1WAVE_ARROW
    1WHITE_ARROW 3FROM_WALL 3WITHIN_TRIANGLE_ARROWHEAD 0RING 1ABOVE 1BUOY 1EQUAL_TO 1IN_EQUAL_TO
    1OPERATOR 1POINT 0RINGED_PLANET 0RINGING_BELL 0RISING_DIAGONAL_CROSSING_FALLING_DIAGONAL
    3SOUTH_EAST_ARROW 0RLE 0RLI 0RLM 0RLO 0ROASTED_SWEET_POTATO 0ROBOT_FACE 0ROCK 0ROCKET
    0ROLL_OF_PAPER 0ROLLED-UP_NEWSPAPER 0ROLLER_COASTER 1SKATE 0ROLLING_ON_THE_FLOOR_LAUGHING
    0ROMAN_AS_SIGN 1CENTURIAL_SIGN 1DENARIUS_SIGN 1DIMIDIA_SEXTULA_SIGN 1DUPONDIUS_SIGN
    1NUMERAL_EIGHT 2ELEVEN 2FIFTY 3EARLY_FORM 3THOUSAND 2FIVE 3HUNDRED 3THOUSAND 2FOUR 2NINE 2ONE
    3HUNDRED 4THOUSAND 3THOUSAND 4C_D 2REVERSED_ONE_HUNDRED 2SEVEN 2SIX 3LATE_FORM 2TEN 3THOUSAND
    2THREE 2TWELVE 2TWO 1QUINARIUS_SIGN 1SEMUNCIA_SIGN 1SESTERTIUS_SIGN 1SEXTANS_SIGN 1SEXTULA_SIGN
    1SILIQUA_SIGN 1UNCIA_SIGN 0ROOSTER 0ROSE 0ROSETTE 0ROTATED_CAPITAL_Q 1FLORAL_HEART_BULLET
    1HEAVY_BLACK_HEART_BULLET 1LIGHT_FOUR_POINTED_BLACK_CUSP 1WHITE_FOUR_POINTED_CUSP 0ROUND_PUSHPIN
    1TARGET 0ROUNDED_SYMBOL_FOR_CAI 3FU 3LU 3SHOU 3SHUANGXI 3XI 0ROWBOAT 0RS 0RUBLE_SIGN
    0RUGBY_FOOTBALL 0RULE-DELAYED 0RUMI_DIGIT_EIGHT 2FIVE 2FOUR 2NINE 2ONE 2SEVEN 2SIX 2THREE 2TWO
    1FRACTION_ONE_HALF 3QUARTER 3THIRD 2TWO_THIRDS 1NUMBER_EIGHT_HUNDRED 2EIGHTY 2FIFTY
    2FIVE_HUNDRED 2FORTY 2FOUR_HUNDRED 2NINE_HUNDRED 2NINETY 2ONE_HUNDRED 2SEVEN_HUNDRED 2SEVENTY
    2SIX_HUNDRED 2SIXTY 2TEN 2THIRTY 2THREE_HUNDRED 2TWENTY 2TWO_HUNDRED 0RUNIC_ARLAUG_SYMBOL
    1BELGTHOR_SYMBOL 1CROSS_PUNCTUATION 1LETTER_AC_A 2AESC 2ALGIZ_EOLHX 2ANSUZ_A
    2BERKANAN_BEORC_BJARKAN_B 2C 2CALC 2CEALC 2CEN 2CWEORTH 2D 2DAGAZ_DAEG_D 2DOTTED-L 2DOTTED-N
    2DOTTED-P 2E 2EAR 2EHWAZ_EH_E 2ENG 2ETH 2FEHU_FEOH_FE_F 2FRANKS_CASKET_AC 4AESC 4EH 4IS 4OS 2G
    2GAR 2GEBO_GYFU_G 2GER 2HAEGL_H 2HAGLAZ_H 2ICELANDIC-YR 2ING 2INGWAZ 2IOR 2ISAZ_IS_ISS_I
    2IWAZ_EOH 2JERAN_J 2K 2KAUN_K 2KAUNA 2LAUKAZ_LAGU_LOGR_L 2LONG-BRANCH-AR_AE
    2LONG-BRANCH-HAGALL_H 2LONG-BRANCH-MADR_M 2LONG-BRANCH-OSS_O 2LONG-BRANCH-YR 2MANNAZ_MAN_M
    2NAUDIZ_NYD_NAUD_N 2O 2OE 2ON 2OO 2OPEN-P 2OS_O 2OTHALAN_ETHEL_O 2PERTHO_PEORTH_P 2Q
    2RAIDO_RAD_REID_R 2SH 2SHORT-TWIG-AR_A 2SHORT-TWIG-BJARKAN_B 2SHORT-TWIG-HAGALL_H
    2SHORT-TWIG-MADR_M 2SHORT-TWIG-NAUD_N 2SHORT-TWIG-OSS_O 2SHORT-TWIG-SOL_S 2SHORT-TWIG-TYR_T
    2SHORT-TWIG-YR 2SIGEL_LONG-BRANCH-SOL_S 2SOWILO_S 2STAN 2THURISAZ_THURS_THORN 2TIWAZ_TIR_TYR_T
    2URUZ_UR_U 2V 2W 2WUNJO_WYNN_W 2X 2Y 2YR 2Z 1MULTIPLE_PUNCTUATION 1SINGLE_PUNCTUATION
    1TVIMADUR_SYMBOL 0RUNNER 0RUNNING_SHIRT_WITH_SASH 0RUPEE_SIGN
    0RUSSIAN_ASTROLOGICAL_SYMBOL_BINOVILE 3NOVILE 3QUINTILE 3SENTAGON 3TREDECILE 3VIGINTILE
    "),
    ('S', "
    0S_IN_TRIANGLE 0SAFETY_PIN 1VEST 0SAGITTARIUS 0SAILBOAT 0SAKE_BOTTLE_AND_CUP 0SALT_SHAKER
    0SALTIRE 0SALUTING_FACE 0SAMARITAN_ABBREVIATION_MARK 1LETTER_ALAF 2BAA 2BIT 2DALAT 2FI 2GAMAN
    2IN 2IT 2IY 2KAAF 2LABAT 2MIM 2NUN 2QUF 2RISH 2SHAN 2SINGAAT 2TAAF 2TIT 2TSAADIY 2YUT 2ZEN
    1MARK_DAGESH 2EPENTHETIC_YUT 2IN 2IN-ALAF 2NEQUDAA 2OCCLUSION 1MODIFIER_LETTER_EPENTHETIC_YUT 3I
    3SHORT_A 1PUNCTUATION_AFSAAQ 2ANGED 2ANNAAU 2ARKAANU 2ATMAAU 2BAU 2MELODIC_QITSA 2NEQUDAA 2QITSA
    2SHIYYAALAA 2SOF_MASHFAAT 2TURU 2ZAEF 2ZIQAA 1VOWEL_SIGN_A 3AA 3E 3I 3LONG_A 4AA 4E 4I 4U 3O
    3OVERLONG_A 4AA 3SHORT_A 3SUKUN 3U 0SANDWICH
    0SANS-SERIF_HEAVY_DOUBLE_COMMA_QUOTATION_MARK_ORNAMENT 3TURNED_COMMA_QUOTATION_MARK_ORNAMENT
    2LOW_DOUBLE_COMMA_QUOTATION_MARK_ORNAMENT 1INTERROBANG_ORNAMENT 0SARI 0SATELLITE 1ANTENNA
    0SATURN 0SAURASHTRA_CONSONANT_SIGN_HAARU 1DANDA 1DIGIT_EIGHT 2FIVE 2FOUR 2NINE 2ONE 2SEVEN 2SIX
    2THREE 2TWO 2ZERO 1DOUBLE_DANDA 1LETTER_A 2AA 2AI 2AU 2BA 2BHA 2CA 2CHA 2DA 2DDA 2DDHA 2DHA 2E
    2EE 2GA 2GHA 2HA 2I 2II 2JA 2JHA 2KA 2KHA 2LA 2LLA 2MA 2NA 2NGA 2NNA 2NYA 2O 2OO 2PA 2PHA 2RA
    2SA 2SHA 2SSA 2TA 2THA 2TTA 2TTHA 2U 2UU 2VA 2VOCALIC_L 3LL 3R 3RR 2YA 1SIGN_ANUSVARA
    2CANDRABINDU 2VIRAMA 2VISARGA 1VOWEL_SIGN_AA 3AI 3AU 3E 3EE 3I 3II 3O 3OO 3U 3UU 3VOCALIC_L 4LL
    4R 4RR 0SAUROPOD 0SAXOPHONE 0SCALES 0SCARF 0SCHOOL 1SATCHEL 0SCI 0SCOOTER 0SCORPION 0SCORPIUS
    0SCREEN 0SCREWDRIVER 0SCRIPT_CAPITAL_B 2E 2F 2H 2I 2L 2M 2P 2R 1LIGATURE_ET_ORNAMENT 1SMALL_E 2G
    2L 2O 0SCROLL 0SCRUPLE 0SEAL 0SEAT 0SECOND_PLACE_MEDAL 0SECTION_SIGN 0SECTOR 0SEDNA
    0SEE-NO-EVIL_MONKEY 0SEEDLING 0SEGMENT 0SEGMENTED_DIGIT_EIGHT 2FIVE 2FOUR 2NINE 2ONE 2SEVEN 2SIX
    2THREE 2TWO 2ZERO 0SELFIE 0SEMICOLON 0SEMIDIRECT_PRODUCT_WITH_BOTTOM_CLOSED 0SEMISEXTILE
    0SEPARATED_SYMBOL 0SERIOUS_FACE_WITH_SYMBOLS_COVERING_MOUTH 0SERVICE_MARK 0SESAME_DOT
    0SESQUIQUADRATE 0SET_MINUS 1TRANSMIT_STATE 0SEWING_NEEDLE 0SEXTILE 0SGC 0SHADOWED_WHITE_CIRCLE
    2LATIN_CROSS 2STAR 0SHALLOW_PAN_OF_FOOD 0SHAMROCK 0SHARADA_ABBREVIATION_SIGN 1CONTINUATION_SIGN
    1DANDA 1DIGIT_EIGHT 2FIVE 2FOUR 2NINE 2ONE 2SEVEN 2SIX 2THREE 2TWO 2ZERO 1DOUBLE_DANDA 1EKAM
    1EXTRA_SHORT_VOWEL_MARK 1HEADSTROKE 1LETTER_A 2AA 2AI 2AU 2BA 2BHA 2CA 2CHA 2DA 2DDA 2DDHA 2DHA
    2E 2GA 2GHA 2HA 2I 2II 2JA 2JHA 2KA 2KHA 2LA 2LLA 2MA 2NA 2NGA 2NNA 2NYA 2O 2PA 2PHA 2RA 2SA
    2SHA 2SSA 2TA 2THA 2TTA 2TTHA 2U 2UU 2VA 2VOCALIC_L 3LL 3R 3RR 2YA 1OM 1SANDHI_MARK
    1SECTION_MARK-1 2MARK-2 1SEPARATOR 1SIGN_ANUSVARA 2AVAGRAHA 2CANDRABINDU 2INVERTED_CANDRABINDU
    2JIHVAMULIYA 2NUKTA 2SIDDHAM 2UPADHMANIYA 2VIRAMA 2VISARGA 1SUTRA_MARK 1VOWEL_MODIFIER_MARK
    2SIGN_AA 3AI 3AU 3E 3I 3II 3O 3PRISHTHAMATRA_E 3U 3UU 3VOCALIC_L 4LL 4R 4RR 0SHARK 0SHAVED_ICE
    0SHAVIAN_LETTER_ADO 2AGE 2AH 2AIR 2ARE 2ARRAY 2ASH 2AWE 2BIB 2CHURCH 2DEAD 2EAR 2EAT 2EGG 2ERR
    2FEE 2GAG 2HA-HA 2HUNG 2IAN 2ICE 2IF 2JUDGE 2KICK 2LOLL 2MEASURE 2MIME 2NUN 2OAK 2OIL 2ON 2OOZE
    2OR 2OUT 2PEEP 2ROAR 2SO 2SURE 2THEY 2THIGH 2TOT 2UP 2VOW 2WOE 2WOOL 2YEA 2YEW 2ZOO 0SHEEP
    0SHIELD 0SHIFT_IN 1OUT 0SHINTO_SHRINE 0SHIP 0SHOCKED_FACE_WITH_EXPLODING_HEAD 0SHOOTING_STAR
    0SHOPPING_BAGS 1TROLLEY 0SHORT_BACKSLANTED_SOUTH_ARROW
    1BENT_ARROW_POINTING_DOWNWARDS_THEN_NORTH_EAST 1DOWN_TACK 3WITH_OVERBAR 1LEFT_TACK
    1RIGHTWARDS_ARROW_ABOVE_LEFTWARDS_ARROW 1SLANTED_NORTH_ARROW 1UP_TACK 3ABOVE_SHORT_DOWN_TACK
    3WITH_UNDERBAR 0SHORTCAKE 0SHORTHAND_FORMAT_CONTINUING_OVERLAP 2DOWN_STEP 2LETTER_OVERLAP
    2UP_STEP 0SHORTS 0SHOULDERED_OPEN_BOX 0SHOWER 0SHRIMP 0SHRUG 0SHUFFLE_PRODUCT 0SHY 0SI
    0SIDDHAM_DANDA 1DOUBLE_DANDA 1END_OF_TEXT_MARK 1LETTER_A 2AA 2AI 2ALTERNATE_U 2AU 2BA 2BHA 2CA
    2CHA 2DA 2DDA 2DDHA 2DHA 2E 2GA 2GHA 2HA 2I 2II 2JA 2JHA 2KA 2KHA 2LA 2MA 2NA 2NGA 2NNA 2NYA 2O
    2PA 2PHA 2RA 2SA 2SHA 2SSA 2TA 2THA 2THREE-CIRCLE_ALTERNATE_I 2TTA 2TTHA 2TWO-CIRCLE_ALTERNATE_I
    4II 2U 2UU 2VA 2VOCALIC_L 3LL 3R 3RR 2YA 1REPETITION_MARK-1 2MARK-2 2MARK-3
    1SECTION_MARK_DOUBLE_RING 5WITH_RAYS 3WITH_CIRCLES_AND_FOUR_ENCLOSURES 6RAYS 6TWO_ENCLOSURES
    4DOUBLE_CRESCENTS 4QUADRUPLE_CRESCENTS 4RAYS_AND_DOTTED_CRESCENTS 7DOUBLE_CRESCENTS
    7TRIPLE_CRESCENTS 4SEPTUPLE_CRESCENTS 4TRIDENT_AND_DOTTED_CRESCENTS 6U-SHAPED_ORNAMENTS
    4TRIPLE_CRESCENTS 1SEPARATOR_BAR 2DOT 1SIGN_ANUSVARA 2CANDRABINDU 2NUKTA 2SIDDHAM 2VIRAMA
    2VISARGA 1VOWEL_SIGN_AA 3AI 3ALTERNATE_U 4UU 3AU 3E 3I 3II 3O 3U 3UU 3VOCALIC_R 4RR
    0SIDEWAYS_BLACK_DOWN_POINTING_INDEX 2LEFT_POINTING_INDEX 2RIGHT_POINTING_INDEX
    2UP_POINTING_INDEX 1WHITE_DOWN_POINTING_INDEX 2LEFT_POINTING_INDEX 2RIGHT_POINTING_INDEX
    2UP_POINTING_INDEX 0SIGN_OF_THE_HORNS 0SIGNWRITING_AIR_BLOW_SMALL_ROTATIONS 2BLOWING_OUT
    2SUCK_SMALL_ROTATIONS 2SUCKING_IN 1BREATH_EXHALE 2INHALE 1BRUSH_BETWEEN 2MULTIPLE 2SINGLE
    1CHEEKS_NEUTRAL 2PUFFED 2SUCKED 1COLON 1COMMA 1DREAMY_EYEBROWS_DOWN_NEUTRAL 3NEUTRAL_DOWN 4UP
    3UP_NEUTRAL 1DYNAMIC_ARROWHEAD_LARGE 3SMALL 2EVERY_OTHER_TIME 2FAST 2GRADUAL 2RELAXED
    2SIMULTANEOUS 3ALTERNATING 2SLOW 2TENSE 1EARS 1EXCITEMENT 1EYE_BLINK_MULTIPLE 3SINGLE 2WINK
    1EYEBROWS_STRAIGHT_DOWN 3NEUTRAL 3UP 1EYEGAZE-FLOORPLANE_CURVED 2STRAIGHT 3ALTERNATING 3DOUBLE
    1EYEGAZE-WALLPLANE_CIRCLING 2CURVED 2STRAIGHT 3ALTERNATING 3DOUBLE 1EYELASHES_DOWN 2FLUTTERING
    2UP 1EYES_CLOSED 2HALF_CLOSED 3OPEN 2OPEN 2SQUEEZED 2WIDE_OPEN 2WIDENING_MOVEMENT
    1FACE_DIRECTION_POSITION_NOSE_FORWARD_TILTING 5UP_OR_DOWN 8TILTING 1FILL_MODIFIER-2 2MODIFIER-3
    2MODIFIER-4 2MODIFIER-5 2MODIFIER-6 1FINGER 1FLICK_LARGE_MULTIPLE 3SINGLE 2SEQUENTIAL
    2SMALL_MULTIPLE 3SINGLE 1FLOORPLANE_SHOULDER_HIP_MOVE 1FOREHEAD_CONTACT 2NEUTRAL 2WRINKLED
    1FULL_STOP 1GRASP_BETWEEN 2MULTIPLE 2SINGLE 1HAIR 1HAND-ANGLE 2INDEX 3MIDDLE_LITTLE 4RING
    3RING_LITTLE 5OUT 3THUMB 4IN 4OUT 2LITTLE_INDEX 4THUMB_INDEX_THUMB 7OUT 3UP 2MIDDLE_RING_LITTLE
    5IN 5OUT 2RING_DOWN_MIDDLE_THUMB_INDEX_CROSS 3LITTLE 1HAND-CIRCLE 2INDEX 3BENT 3HINGE 3MIDDLE
    4CROSS_LITTLE 4CROSSED 4LITTLE 4RING 4THUMB 3RING_LITTLE 2LITTLE_INDEX 3UP 2MIDDLE_RING_LITTLE
    5BENT 3UP 2RING_LITTLE 1HAND-CLAW 2FOUR_FINGERS_CONJOINED 2INDEX_THUMB_CURVE_THUMB_INSIDE
    2MIDDLE_RING_LITTLE_CONJOINED 6SIDE 2NO_THUMB 2THUMB_FORWARD 3SIDE 1HAND-CUP
    2FIVE_FINGERS_SPREAD 5OPEN 2INDEX 3RING_LITTLE 3THUMB 4OPEN 2MIDDLE_RING_LITTLE 2NO_THUMB 2OPEN
    3NO_THUMB 3THUMB_FORWARD 4SIDE 2THUMB_FORWARD 3SIDE 1HAND-CURLICUE 2INDEX_RING_LITTLE_ON
    2MIDDLE_RING_LITTLE_ON 2OPEN 1HAND-FIST 2FOUR_FINGERS_CONJOINED_BENT 2HEEL 2INDEX 3BENT
    4OVER_MIDDLE 3CUPPED 3HINGED 4LOW 4MIDDLE_UP 6THUMB_SIDE 3MIDDLE 4BENT 5THUMB_STRAIGHT
    4CONJOINED 5CUPPED 6THUMB_FORWARD 5HINGED 6THUMB_SIDE 5INDEX_BENT 5MIDDLE_BENT 5THUMB_FORWARD
    6SIDE 7BENT 7CONJOINED 4CROSS_LITTLE 4CROSSED 5THUMB_SIDE 4HINGED 5SPREAD_THUMB_SIDE 4LITTLE
    4RAISED_KNUCKLES 4RING 5BENT 5CONJOINED 4STRAIGHT_THUMB_BENT 4THUMB 5ANGLED 6OUT 5BENT 5CIRCLED
    5CONJOINED_HINGED 5CUPPED 5HINGED 5HOOKED 4UP_SPREAD_THUMB_FORWARD 3RAISED_KNUCKLE 3RING_LITTLE
    3THUMB_ANGLED_IN_MIDDLE_UP 5OUT_MIDDLE_UP 4CIRCLE 4CIRCLED_MIDDLE_UP 4CUPPED_MIDDLE_UP 4CURLICUE
    4CURVE_THUMB_INSIDE 6UNDER 4FORWARD_INDEX_BENT 6STRAIGHT 4HOOK 4HOOKED_MIDDLE_HINGED 6UP 4SIDE
    5BOTH_BENT 5INDEX_BENT 6HINGE 5THUMB_BENT 6CONJOINED 6DIAGONAL 3UP_MIDDLE_HINGED
    6THUMB_CONJOINED 7SIDE 2LITTLE_BENT 3DOWN 4OTHERS_CIRCLED 4RIPPLE_CURVED 5STRAIGHT 3INDEX 4THUMB
    3RAISED_KNUCKLE 3THUMB 3TOUCHES_THUMB 3UP 2MIDDLE_BENT_OVER_INDEX 3DOWN 3LITTLE 3RAISED_KNUCKLE
    3RING_LITTLE 3THUMB_ANGLED_INDEX_UP 5OUT_INDEX_CROSSED 7UP 4CIRCLED_INDEX_HINGED 6UP
    4CUPPED_INDEX_UP 4HOOKED_INDEX_UP 4LITTLE 3UP 4THUMB_SIDE 2RING_DOWN 3INDEX 3LITTLE 3MIDDLE
    4CONJOINED 4RAISED_KNUCKLES 3RAISED_KNUCKLE 3THUMB 3UP 2THUMB 3BETWEEN_INDEX_MIDDLE 6STRAIGHT
    4MIDDLE_RING 4RING_LITTLE 3FORWARD 3HEEL 3OVER_FOUR_RAISED_KNUCKLES 4TWO_FINGERS 3SIDE_BENT
    4CONJOINED 4DIAGONAL 3UNDER_FOUR_FINGERS 4INDEX_BENT 4LITTLE_UP 4THREE_FINGERS 4TWO_FINGERS
    1HAND-FLAT 2BETWEEN_PALM_FACINGS 2FIVE_FINGERS_SPREAD 5BENT 5FOUR_BENT 5HINGED 6NO_THUMB
    6THUMB_SIDE 5THUMB_FORWARD 2FOUR_FINGERS 4BENT 4CONJOINED 5SPLIT 4HINGED 2HEEL
    3FIVE_FINGERS_SPREAD 6BENT 6FOUR_BENT 3THUMB_SIDE 2SPLIT_CENTRE 4THUMB_SIDE 6BENT
    3INDEX_THUMB_SIDE 3LITTLE 2THUMB_BENT 3FORWARD 3SIDE 1HAND-HINGE 2FIVE_FINGERS_SPREAD_OPEN
    2FOUR_FINGERS_CONJOINED 2INDEX 3HINGED 3MIDDLE_LITTLE 4RING 5CONJOINED 3RING_LITTLE 3THUMB
    4LARGE 4OPEN 4SIDE 4SMALL 2LITTLE 3INDEX 4THUMB 3THUMB 2MIDDLE 3RING_LITTLE 2NO_THUMB 2OPEN
    3NO_THUMB 3THUMB_FORWARD 4SIDE 2RING 3DOWN_INDEX_THUMB_HOOK_MIDDLE 2SMALL
    2THUMB_BETWEEN_MIDDLE_RING 3SIDE 4TOUCHING_INDEX 1HAND-HOOK 2CURLICUE 2INDEX_RING_LITTLE_IN 5OUT
    5UNDER 2MIDDLE_RING_LITTLE_CONJOINED 6IN 6OUT 3THUMB 2RING_THUMB 1HAND-OVAL 2FIVE_FINGERS_SPREAD
    2INDEX 2LITTLE_UP 2NO_THUMB 2RING_LITTLE 2THUMB_FORWARD 3SIDE 1HEAD 2MOVEMENT_CIRCLE
    2MOVEMENT-FLOORPLANE_CURVE 3STRAIGHT 2MOVEMENT-WALLPLANE_CURVE 3STRAIGHT 3TILT 2RIM
    1LIMB_COMBINATION 2LENGTH-1 2LENGTH-2 2LENGTH-3 2LENGTH-4 2LENGTH-5 2LENGTH-6 2LENGTH-7
    1LIP_LOWER_OVER_UPPER 2UPPER_OVER_LOWER 1LIPS_PRESSED_TOGETHER 1LOCATION_DEPTH 2HEAD_NECK
    2HEIGHT 2LIMBS_DIGITS 2TORSO 2WIDTH 1LOCATION-FLOORPLANE_SPACE 1LOCATION-WALLPLANE_SPACE
    1MOUTH_CLOSED_CONTACT 3FORWARD 3NEUTRAL 2CORNERS 2FROWN 3OPEN 3WRINKLED 2KISS 3FORWARD 3WRINKLED
    2OPEN_CIRCLE 3FORWARD 3OVAL 4WRINKLED 4YAWN 3RECTANGLE 4WRINKLED 4YAWN 3WRINKLED 2SMILE 3OPEN
    3WRINKLED 2TENSE 3FORWARD 3SUCKED 2WRINKLES_DOUBLE 3SINGLE 1MOVEMENT-DIAGONAL_AWAY_LARGE
    3LARGEST 3MEDIUM 3SMALL 2BETWEEN_AWAY_LARGE 4LARGEST 4MEDIUM 4SMALL 3TOWARDS_LARGE 4LARGEST
    4MEDIUM 4SMALL 2TOWARDS_LARGE 3LARGEST 3MEDIUM 3SMALL
    1MOVEMENT-FLOORPLANE_ARM_CIRCLE_HITTING_WALL_LARGE_DOUBLE 7SINGLE 6MEDIUM_DOUBLE 7SINGLE
    6SMALL_DOUBLE 7SINGLE 2BEND 2BOX_LARGE 3MEDIUM 3SMALL 2CHECK 2CORNER_LARGE 3MEDIUM 3SMALL 2CROSS
    2CURVE_COMBINED 3HITTING_CEILING_LARGE 5SMALL 4FLOOR_LARGE 5SMALL 3LARGE 3LARGEST 3MEDIUM 3SMALL
    2DOUBLE_ALTERNATING 4WRIST_FLEX 3STRAIGHT 3WRIST_FLEX 2FINGER_CIRCLES_HITTING_WALL_DOUBLE
    6SINGLE 3CONTACT 2HUMP_HITTING_CEILING_LARGE_DOUBLE 6TRIPLE 5SMALL_DOUBLE 6TRIPLE
    4FLOOR_LARGE_DOUBLE 5SMALL_DOUBLE 5TRIPLE_LARGE_TRIPLE 6SMALL_TRIPLE 3SMALL 2JAW
    2LOOP_HITTING_CEILING_LARGE_DOUBLE 6SINGLE 5SMALL_DOUBLE 6SINGLE 4FLOOR_LARGE_DOUBLE 6SINGLE
    5SMALL_DOUBLE 6SINGLE 3SMALL 2PEAKS_LARGE 3MEDIUM 3SMALL 2SHAKING_PARALLEL
    2SINGLE_STRAIGHT_LARGE 4LARGEST 4MEDIUM 4SMALL 3WRIST_FLEX 2TRIPLE_ALTERNATING_MOVEMENT
    4WRIST_FLEX 3STRAIGHT_MOVEMENT 3WRIST_FLEX 2WAVE_HITTING_CEILING_LARGE 5SMALL 4FLOOR_LARGE
    5SMALL 3LARGE 3SMALL 3SNAKE 2WRIST_CIRCLE_HITTING_WALL_DOUBLE 6SINGLE 2ZIGZAG_LARGE 3MEDIUM
    3SMALL 1MOVEMENT-HINGE_DOWN_SEQUENTIAL 2SIDE_TO_SIDE_SCISSORS 2UP_DOWN_ALTERNATING_LARGE 5SMALL
    4LARGE 4SMALL 3SEQUENTIAL 1MOVEMENT-WALLPLANE_ARM_CIRCLE_MEDIUM_DOUBLE 5SINGLE 4SMALL_DOUBLE
    5SINGLE 2BEND_LARGE 3MEDIUM 3SMALL 2BOX_LARGE 3MEDIUM 3SMALL 2CHECK_LARGE 3MEDIUM 3SMALL
    2CORNER_LARGE 3MEDIUM 3ROTATION 3SMALL 2CROSS 2CURVE_HALF-CIRCLE_LARGE 4LARGEST 4MEDIUM 4SMALL
    3HITTING_CHEST 4FRONT_WALL 3QUARTER_LARGE 4LARGEST 4MEDIUM 4SMALL 3THEN_STRAIGHT
    3THREE-QUARTER_CIRCLE_MEDIUM 5SMALL 2CURVED_CROSS_MEDIUM 4SMALL 2DOUBLE_ALTERNATING 4WRIST_FLEX
    3STRAIGHT 3WRIST_FLEX 2FINGER_CIRCLES_DOUBLE 4SINGLE 3CONTACT 2HUMP_HITTING_CHEST 4FRONT_WALL
    3LARGE 3MEDIUM 3SMALL 2JAW 2LOOP_HITTING_CHEST 4FRONT_WALL 3LARGE 3MEDIUM 3SMALL 4DOUBLE
    2PEAKS_LARGE 3MEDIUM 3SMALL 2SHAKING 2SINGLE_STRAIGHT_LARGE 4LARGEST 4MEDIUM 4SMALL 3WRIST_FLEX
    2TRIPLE_ALTERNATING 4WRIST_FLEX 3STRAIGHT_MOVEMENT 3WRIST_FLEX 2WAVE_CURVE_DOUBLE_LARGE 5MEDIUM
    5SMALL 4TRIPLE_LARGE 5MEDIUM 5SMALL 3DIAGONAL_PATH_LARGE 5MEDIUM 5SMALL 3HITTING_CHEST
    4FRONT_WALL 2WRIST_CIRCLE_FRONT_DOUBLE 5SINGLE 2ZIGZAG_LARGE 3MEDIUM 3SMALL 1NECK 1NOSE_CONTACT
    2NEUTRAL 2WIGGLES 2WRINKLES 1PARENTHESIS 1ROTATION_MODIFIER-10 2MODIFIER-11 2MODIFIER-12
    2MODIFIER-13 2MODIFIER-14 2MODIFIER-15 2MODIFIER-16 2MODIFIER-2 2MODIFIER-3 2MODIFIER-4
    2MODIFIER-5 2MODIFIER-6 2MODIFIER-7 2MODIFIER-8 2MODIFIER-9 1ROTATION-FLOORPLANE_ALTERNATING
    3HITTING_CEILING 4FLOOR 2DOUBLE 3HITTING_CEILING 4FLOOR 2SINGLE 3HITTING_CEILING 4FLOOR
    1ROTATION-WALLPLANE_ALTERNATE 2ALTERNATING_HITTING_CHEST 4FRONT_WALL 2DOUBLE 3HITTING_CHEST
    4FRONT_WALL 2SINGLE 3HITTING_CHEST 4FRONT_WALL 1RUB_BETWEEN 2MULTIPLE 2SINGLE 1SEMICOLON
    1SHOULDER_HIP_POSITIONS 3SPINE 2TILTING_FROM_WAIST 1SQUEEZE_FLICK_ALTERNATING 2LARGE_MULTIPLE
    3SINGLE 2SEQUENTIAL 2SMALL_MULTIPLE 3SINGLE 1STRIKE_BETWEEN 2MULTIPLE 2SINGLE 1SURFACE_BETWEEN
    2SYMBOLS 1TEETH 2BITE_LIPS 2MOVEMENT 2ON_LIPS 4MOVEMENT 3TONGUE 4MOVEMENT 1TENSE_CHEEKS_HIGH
    3LOW 3MIDDLE 1TONGUE_CENTRE_INSIDE_MOUTH 3STICKING_OUT 2INSIDE_MOUTH_RELAXED 2LICKING_LIPS
    2MOVES_AGAINST_CHEEK 2STICKING_OUT_FAR 2TIP_BETWEEN_LIPS 3TOUCHING_INSIDE_MOUTH
    1TORSO-FLOORPLANE_TWISTING 1TORSO-WALLPLANE_CURVED_BEND 2STRAIGHT_STRETCH 1TOUCH_BETWEEN
    2MULTIPLE 2SINGLE 1TRAVEL-FLOORPLANE_ROTATION-FLOORPLANE_ALTERNATING 3DOUBLE 3SINGLE
    2ROTATION-WALLPLANE_ALTERNATING 3DOUBLE 3SINGLE 2SHAKING 1TRAVEL-WALLPLANE_ARM_SPIRAL_DOUBLE
    4SINGLE 4TRIPLE 2ROTATION-FLOORPLANE_ALTERNATING 3DOUBLE 3SINGLE 2ROTATION-WALLPLANE_ALTERNATING
    3DOUBLE 3SINGLE 2SHAKING 1UPPER_BODY_TILTING_FROM_HIP_JOINTS 1WALLPLANE_SHOULDER_HIP_MOVE
    0SILHOUETTE_OF_JAPAN 0SIMILAR_ABOVE_GREATER-THAN_ABOVE_EQUALS_SIGN 2LESS-THAN_ABOVE_EQUALS_SIGN
    1MINUS_SIMILAR 1OR_GREATER-THAN 2LESS-THAN 0SINE_WAVE 0SINGLE_CHARACTER_INTRODUCER
    1GRAPHIC_CHARACTER_INTRODUCER 1HIGH-REVERSED-9_QUOTATION_MARK
    1LEFT-POINTING_ANGLE_QUOTATION_MARK 1LOW-9_QUOTATION_MARK 1RIGHT-POINTING_ANGLE_QUOTATION_MARK
    1SHIFT_THREE 2TWO 0SINGLE-SHIFT-2 0SINGLE-SHIFT-3 0SINHALA_ARCHAIC_DIGIT_EIGHT 3FIVE 3FOUR 3NINE
    3ONE 3SEVEN 3SIX 3THREE 3TWO 2NUMBER_EIGHTY 3FIFTY 3FORTY 3NINETY 3ONE_HUNDRED 4THOUSAND
    3SEVENTY 3SIXTY 3TEN 3THIRTY 3TWENTY 1LETTER_AAYANNA 2AEEYANNA 2AEYANNA 2AIYANNA
    2ALPAPRAANA_BAYANNA 3CAYANNA 3DAYANNA 3DDAYANNA 3GAYANNA 3JAYANNA 3KAYANNA 3PAYANNA 3TAYANNA
    3TTAYANNA 2AMBA_BAYANNA 2AUYANNA 2AYANNA 2DANTAJA_LAYANNA 3NAYANNA 3SAYANNA 2EEYANNA 2EYANNA
    2FAYANNA 2HAYANNA 2IIYANNA 2ILUUYANNA 2ILUYANNA 2IRUUYANNA 2IRUYANNA 2IYANNA 2KANTAJA_NAASIKYAYA
    2MAHAAPRAANA_BAYANNA 3CAYANNA 3DAYANNA 3DDAYANNA 3GAYANNA 3JAYANNA 3KAYANNA 3PAYANNA 3TAYANNA
    3TTAYANNA 2MAYANNA 2MUURDHAJA_LAYANNA 3NAYANNA 3SAYANNA 2OOYANNA 2OYANNA 2RAYANNA
    2SANYAKA_DAYANNA 3DDAYANNA 3GAYANNA 3JAYANNA 2TAALUJA_NAASIKYAYA 3SANYOOGA_NAAKSIKYAYA 3SAYANNA
    2UUYANNA 2UYANNA 2VAYANNA 2YAYANNA 1LITH_DIGIT_EIGHT 3FIVE 3FOUR 3NINE 3ONE 3SEVEN 3SIX 3THREE
    3TWO 3ZERO 1PUNCTUATION_KUNDDALIYA 1SIGN_AL-LAKUNA 2ANUSVARAYA 2CANDRABINDU 2VISARGAYA
    1VOWEL_SIGN_AELA-PILLA 3DIGA_AEDA-PILLA 4GAETTA-PILLA 4GAYANUKITTA 4IS-PILLA 4KOMBUVA 4PAA-PILLA
    3GAETTA-PILLA 3GAYANUKITTA 3KETTI_AEDA-PILLA 4IS-PILLA 4PAA-PILLA 3KOMBU_DEKA 3KOMBUVA
    4HAA_AELA-PILLA 5DIGA_AELA-PILLA 5GAYANUKITTA 0SIX_PETALLED_BLACK_AND_WHITE_FLORETTE
    1POINTED_BLACK_STAR 2PINWHEEL_STAR 2STAR_WITH_MIDDLE_DOT 0SIX-PER-EM_SPACE
    0SIXTEEN_POINTED_ASTERISK 0SKATEBOARD 0SKI_AND_SKI_BOOT 0SKIER 0SKULL 1AND_CROSSBONES 0SKUNK
    0SLANTED_EQUAL_TO_OR_GREATER-THAN 5WITH_DOT_INSIDE 4LESS-THAN 5WITH_DOT_INSIDE
    1NORTH_ARROW_WITH_HOOKED_HEAD 4HORIZONTAL_TAIL 0SLAVONIC_ASTERISK 0SLED 0SLEEPING_ACCOMMODATION
    1FACE 1SYMBOL 0SLEEPY_FACE 0SLEUTH_OR_SPY 0SLICE_OF_PIZZA 0SLIGHTLY_FROWNING_FACE 1SMILING_FACE
    0SLOPE 0SLOPING_LARGE_AND 2OR 0SLOT_MACHINE 0SLOTH 0SMALL_AIRPLANE 1AMPERSAND 1ASTERISK
    1BLUE_DIAMOND 1COLON 1COMMA 1COMMERCIAL_AT 1CONTAINS_AS_MEMBER 2WITH_OVERBAR
    3VERTICAL_BAR_AT_END_OF_HORIZONTAL_STROKE 1DOLLAR_SIGN 1ELEMENT_OF 3WITH_OVERBAR
    4VERTICAL_BAR_AT_END_OF_HORIZONTAL_STROKE 1EM_DASH 1EQUALS_SIGN 1EXCLAMATION_MARK 1FULL_STOP
    1GREATER-THAN_SIGN 1HYPHEN-MINUS 1IDEOGRAPHIC_COMMA 1LEFT_CURLY_BRACKET 2PARENTHESIS
    2TORTOISE_SHELL_BRACKET 1LESS-THAN_SIGN 1NUMBER_SIGN 1ORANGE_DIAMOND 1PERCENT_SIGN 1PLUS_SIGN
    1QUESTION_MARK 1REVERSE_SOLIDUS 1RIGHT_CURLY_BRACKET 2PARENTHESIS 2TORTOISE_SHELL_BRACKET
    1ROMAN_NUMERAL_EIGHT 3ELEVEN 3FIFTY 3FIVE 4HUNDRED 3FOUR 3NINE 3ONE 4HUNDRED 4THOUSAND 3SEVEN
    3SIX 3TEN 3THREE 3TWELVE 3TWO 1SEMICOLON 1TILDE 1TWO_DOTS_OVER_ONE_DOT_PUNCTUATION
    1VEE_WITH_UNDERBAR 0SMALLER_THAN 2OR_EQUAL_TO 0SMASH_PRODUCT 0SMILE
    0SMILING_CAT_FACE_WITH_HEART-SHAPED_EYES 4OPEN_MOUTH 1FACE_WITH_HALO 3HEART-SHAPED_EYES 3HORNS
    3OPEN_MOUTH 5AND_COLD_SWEAT 6SMILING_EYES 6TIGHTLY-CLOSED_EYES 3SMILING_EYES
    5AND_HAND_COVERING_MOUTH 6THREE_HEARTS 3SUNGLASSES 3TEAR 0SMIRKING_FACE 0SMOKING_SYMBOL 0SNAIL
    0SNAKE 0SNEEZING_FACE 0SNOW_CAPPED_MOUNTAIN 0SNOWBOARDER 0SNOWFLAKE 0SNOWMAN 1WITHOUT_SNOW 0SO
    0SOCCER_BALL 0SOCKS 0SOFT_HYPHEN 1ICE_CREAM 1SHELL_FLOPPY_DISK 0SOFTBALL
    0SOFTWARE-FUNCTION_SYMBOL 0SOGDIAN_COMBINING_CURVE_ABOVE 3BELOW 2DOT_ABOVE 3BELOW 2HOOK_ABOVE
    3BELOW 2LONG_HOOK_BELOW 2RESH_BELOW 2STROKE_BELOW 2TWO_DOTS_ABOVE 4BELOW 1INDEPENDENT_SHIN
    1LETTER_ALEPH 2AYIN 2BETH 2FETH 2GIMEL 2HE 2HETH 2KAPH 2LAMEDH 2LESH 2MEM 2NUN 2PE 2RESH-AYIN
    2SADHE 2SAMEKH 2SHIN 2TAW 2WAW 2YODH 2ZAYIN 1NUMBER_ONE 3HUNDRED 2TEN 2TWENTY
    1PUNCTUATION_CIRCLE_WITH_DOT 2HALF_CIRCLE_WITH_DOT 2TWO_CIRCLES_WITH_DOTS 3VERTICAL_BARS
    5WITH_DOTS 0SOH 0SOLID_QUILT_SQUARE_ORNAMENT 4IN_BLACK_SQUARE 0SOLIDUS 1WITH_OVERBAR 0SOM_SIGN
    0SOON_WITH_RIGHTWARDS_ARROW_ABOVE 0SORA_SOMPENG_DIGIT_EIGHT 3FIVE 3FOUR 3NINE 3ONE 3SEVEN 3SIX
    3THREE 3TWO 3ZERO 2LETTER_AH 3BAH 3CAH 3DAH 3EEH 3EH 3GAH 3HAH 3IH 3JAH 3KAH 3LAH 3MAE 3MAH 3NAH
    3NGAH 3NYAH 3OH 3PAH 3RAH 3SAH 3TAH 3UH 3VAH 3YAH 0SOS 0SOUND_RECORDING_COPYRIGHT
    0SOUTH_EAST_ARROW 3AND_SOUTH_WEST_ARROW 3CROSSING_NORTH_EAST_ARROW 3TO_CORNER 3WITH_HOOK
    2BLACK_ARROW 2DOUBLE_ARROW 2POINTING_BUD 3LEAF 3VINE_LEAF 2SANS-SERIF_ARROW
    2TRIANGLE-HEADED_ARROW 4TO_BAR 2WHITE_ARROW 1WEST_ARROW 3AND_NORTH_WEST_ARROW 3WITH_HOOK
    2BLACK_ARROW 2DOUBLE_ARROW 2POINTING_BUD 3LEAF 3VINE_LEAF 2SANS-SERIF_ARROW
    2TRIANGLE-HEADED_ARROW 4TO_BAR 2WHITE_ARROW 0SOYOMBO_CLUSTER-INITIAL_LETTER_LA 3RA 3SA 3SHA
    1FINAL_CONSONANT_SIGN_-A 4B 4D 4G 4K 4L 4M 4N 4NG 4R 4S 4SH 1GEMINATION_MARK
    1HEAD_MARK_WITH_MOON_AND_SUN 7AND_FLAME 8TRIPLE_FLAME 1LETTER_-A 2A 2BA 2BHA 2CA 2CHA 2DA 2DDA
    2DDHA 2DHA 2DZA 2GA 2GHA 2HA 2JA 2JHA 2KA 2KHA 2KSSA 2LA 2MA 2NA 2NGA 2NNA 2NYA 2PA 2PHA 2RA 2SA
    2SHA 2SSA 2TA 2THA 2TSA 2TSHA 2TTA 2TTHA 2VA 2YA 2ZA 2ZHA 1MARK_DOUBLE_SHAD 2PLUTA 2SHAD 2TSHEG
    1SIGN_ANUSVARA 2JIHVAMULIYA 2UPADHMANIYA 2VISARGA 1SUBJOINER 1TERMINAL_MARK-1 2MARK-2
    1VOWEL_LENGTH_MARK 2SIGN_AI 3AU 3E 3I 3O 3OE 3U 3UE 3VOCALIC_L 4R 0SP 0SPA 0SPACE 0SPAGHETTI
    0SPARKLE 0SPARKLES 0SPARKLING_HEART 0SPEAK-NO-EVIL_MONKEY 0SPEAKER 1WITH_CANCELLATION_STROKE
    2ONE_SOUND_WAVE 2THREE_SOUND_WAVES 0SPEAKING_HEAD_IN_SILHOUETTE 0SPEECH_BALLOON 0SPEEDBOAT
    0SPESMILO_SIGN 0SPHERICAL_ANGLE 2OPENING_LEFT 3UP 0SPIDER 1WEB 0SPIRAL_CALENDAR_PAD 1NOTE_PAD
    1SHELL 0SPLASHING_SWEAT_SYMBOL 0SPONGE 0SPOOL_OF_THREAD 0SPOON 0SPORTS_MEDAL 0SPOUTING_WHALE
    0SQUARE_A_OVER_M 1AARU 1AM 1ANPEA 1APAATO 1ARUHUA 1AU 1BAARERU 1BAR 1BEETA 1BIRU 1BORUTO 1BQ
    1BUSSYERU 1C_OVER_KG 1CAL 1CAP 1CC 1CD 1CM 2CUBED 2SQUARED 1CO 1CORPORATION 1CUP 1DA 1DAASU 1DB
    1DESI 1DJ 1DL 1DM 2CUBED 2SQUARED 1DORU 1EEKAA 1ERA_NAME_HEISEI 3MEIZI 3REIWA 3SYOUWA 3TAISYOU
    1ERG 1ESUKUUDO 1EV 1FM 1FOOT 1FOUR_CORNERS 1GAL 1GANMA 1GARON 1GB 1GHZ 1GIGA 1GINII 1GIRUDAA
    1GPA 1GURAMU 1GURAMUTON 1GY 1HA 1HAITU 1HEKUTAARU 1HERUTU 1HG 1HIRAGANA_HOKA 1HON 1HOON 1HOORU
    1HP 1HPA 1HUARADDO 1HUIITO 1HURAN 1HZ 1IMAGE_OF 3OR_EQUAL_TO 4NOT_EQUAL_TO 1IN 1ININGU 1INTI 1IU
    1K_OHM 1KA 1KAIRI 1KARATTO 1KARORII 1KB 1KCAL 1KEESU 1KG 1KHZ 1KIRO 1KIROGURAMU 1KIROMEETORU
    1KIROWATTO 1KK 1KL 1KM 2CAPITAL 2CUBED 2SQUARED 1KOOPO 1KORUNA 1KPA 1KT 1KUROONE 1KURUZEIRO 1KV
    1KW 1KYURII 1LEFT_OPEN_BOX_OPERATOR 1LM 1LN 1LOG 1LOZENGE 1LX 1M_CUBED 2OHM 2OVER_S 4SQUARED
    2SQUARED 1MA 1MAHHA 1MAIKURO 1MAIRU 1MANSYON 1MARUKU 1MB 2SMALL 1MEETORU 1MEGA 1MEGATON 1MG 1MHZ
    1MIKURON 1MIL 1MIRI 1MIRIBAARU 1ML 1MM 2CUBED 2SQUARED 1MOL 1MPA 1MS 1MU_A 2F 2G 2L 2M 2S 2V 2W
    1MV 2MEGA 1MW 2MEGA 1NA 1NANO 1NF 1NM 1NOTTO 1NS 1NV 1NW 1ONSU 1OOMU 1ORIGINAL_OF 3OR_EQUAL_TO
    4NOT_EQUAL_TO 1OV 1PA 2AMPS 1PAASENTO 1PAATU 1PC 1PEEZI 1PENIHI 1PENSU 1PESO 1PF 1PH 1PIASUTORU
    1PIKO 1PIKURU 1PM 1POINTO 1PONDO 1POSITION_INDICATOR 1PPM 1PR 1PS 1PV 1PW 1RAD 2OVER_S 4SQUARED
    1REMU 1RENTOGEN 1RIGHT_OPEN_BOX_OPERATOR 1RIRA 1RITTORU 1ROOT 1RUPII 1RUUBURU 1SAIKURU 1SANTIIMU
    1SENTI 1SENTO 1SIRINGU 1SR 1SV 1TARGET 1THZ 1TON 1UON 1V_OVER_M 1WATTO 1WB
    1WITH_BOTTOM_HALF_BLACK 2CONTOURED_OUTLINE 2DIAGONAL_CROSSHATCH_FILL 2HORIZONTAL_FILL
    2LEFT_HALF_BLACK 2LOWER_LEFT_DIAGONAL_HALF_BLACK 3RIGHT_DIAGONAL_HALF_BLACK
    2ORTHOGONAL_CROSSHATCH_FILL 2RIGHT_HALF_BLACK 2TOP_HALF_BLACK 2UPPER_LEFT_DIAGONAL_HALF_BLACK
    4TO_LOWER_RIGHT_FILL 3RIGHT_DIAGONAL_HALF_BLACK 4TO_LOWER_LEFT_FILL 2VERTICAL_FILL 1YAADO 1YAARU
    1YUAN 0SQUARED_ASTERISK 1CJK_UNIFIED_IDEOGRAPH-4E00 3IDEOGRAPH-4E09 3IDEOGRAPH-4E2D
    3IDEOGRAPH-4E8C 3IDEOGRAPH-4EA4 3IDEOGRAPH-518D 3IDEOGRAPH-521D 3IDEOGRAPH-524D 3IDEOGRAPH-5272
    3IDEOGRAPH-53CC 3IDEOGRAPH-53F3 3IDEOGRAPH-5408 3IDEOGRAPH-5439 3IDEOGRAPH-55B6 3IDEOGRAPH-58F0
    3IDEOGRAPH-591A 3IDEOGRAPH-5929 3IDEOGRAPH-5B57 3IDEOGRAPH-5DE6 3IDEOGRAPH-5F8C 3IDEOGRAPH-624B
    3IDEOGRAPH-6253 3IDEOGRAPH-6295 3IDEOGRAPH-6307 3IDEOGRAPH-6355 3IDEOGRAPH-6599 3IDEOGRAPH-65B0
    3IDEOGRAPH-6620 3IDEOGRAPH-6708 3IDEOGRAPH-6709 3IDEOGRAPH-6E80 3IDEOGRAPH-6F14 3IDEOGRAPH-7121
    3IDEOGRAPH-751F 3IDEOGRAPH-7533 3IDEOGRAPH-7981 3IDEOGRAPH-7A7A 3IDEOGRAPH-7D42 3IDEOGRAPH-89E3
    3IDEOGRAPH-8CA9 3IDEOGRAPH-8D70 3IDEOGRAPH-904A 3IDEOGRAPH-914D 1CL 1COOL 1DOT_OPERATOR 1EIGHT_K
    1FALLING_DIAGONAL_SLASH 1FIVE_POINT_ONE 1FOUR_DOT_PUNCTUATION 2K 1FREE 1HC 1HDR 1HI-RES 1HV 1ID
    1KATAKANA_DE 2KOKO 2SA 1KEY 1LATIN_CAPITAL_LETTER_A 4B 4C 4D 4E 4F 4G 4H 4I 4J 4K 4L 4M 4N 4O 4P
    4Q 4R 4S 4T 4U 4V 4W 4X 4Y 4Z 2SMALL_LETTER_D 1LOGICAL_AND 2OR 1LOSSLESS 1MINUS 1MV 1NEW 1NG 1OK
    1ONE_HUNDRED_TWENTY_P 1PLUS 1PPV 1RISING_DIAGONAL_SLASH 1SALTIRE 1SD 1SECOND_SCREEN
    1SEVEN_POINT_ONE 1SHV 1SIXTY_P 1SMALL_CIRCLE 1SOS 1SQUARE 1SS 1THREE_D 1TIMES
    1TWENTY-TWO_POINT_TWO 1TWO_K 1UHD 1UP_WITH_EXCLAMATION_MARK 1VOD 1VS 1WC
    0SQUAT_BLACK_RIGHTWARDS_ARROW 0SQUID 0SS2 0SS3 0SSA 0ST 0STADIUM 0STAFF_OF_AESCULAPIUS 2HERMES
    0STAMPED_ENVELOPE 0STANDING_PERSON 0STAR_AND_CRESCENT 1EQUALS 1OF_DAVID 1OPERATOR
    1WITH_LEFT_HALF_BLACK 2RIGHT_HALF_BLACK 0START_OF_GUARDED_AREA 2HEADING 2PROTECTED_AREA
    2SELECTED_AREA 2STRING 2TEXT 0STATION 0STATUE_OF_LIBERTY 0STEAM_LOCOMOTIVE 0STEAMING_BOWL
    0STENOGRAPHIC_FULL_STOP 0STETHOSCOPE 0STICK_FIGURE 2LEANING_LEFT 3RIGHT 2WITH_ARMS_RAISED 3DRESS
    0STOCK_CHART 0STOPWATCH 0STRAIGHT_RULER 0STRAIGHTNESS 0STRAWBERRY 0STRESS_OUTLINED_WHITE_STAR
    0STRICTLY_EQUIVALENT_TO 0STRING_TERMINATOR 0STS 0STUDIO_MICROPHONE 0STUFFED_FLATBREAD 0STUPA
    0STX 0SUB 0SUBSCRIPT_EIGHT 1EQUALS_SIGN 1FIVE 1FOUR 1LEFT_PARENTHESIS 1MINUS 1NINE 1ONE
    1PLUS_SIGN 1RIGHT_PARENTHESIS 1SEVEN 1SIX 1THREE 1TWO 1ZERO 0SUBSET_ABOVE_RIGHTWARDS_ARROW
    2SUBSET 2SUPERSET 1OF 2ABOVE_ALMOST_EQUAL_TO 3EQUALS_SIGN 3NOT_EQUAL_TO 3TILDE_OPERATOR
    2OR_EQUAL_TO 5WITH_DOT_ABOVE 2WITH_NOT_EQUAL_TO 1WITH_DOT 2MULTIPLICATION_SIGN_BELOW
    2PLUS_SIGN_BELOW 0SUBSTITUTE 0SUCCEEDS 1ABOVE_ALMOST_EQUAL_TO 2EQUALS_SIGN 2NOT_ALMOST_EQUAL_TO
    3EQUAL_TO 2SINGLE-LINE_EQUALS_SIGN 3NOT_EQUAL_TO 1BUT_NOT_EQUIVALENT_TO 1OR_EQUAL_TO
    2EQUIVALENT_TO 1UNDER_RELATION 0SUMMATION_BOTTOM 1TOP 1WITH_INTEGRAL 0SUN 1BEHIND_CLOUD
    1WITH_FACE 0SUNDANESE_AVAGRAHA 1CONSONANT_SIGN_PAMINGKAL 3PANYAKRA 3PANYIKU 3PASANGAN_MA 4WA
    1DIGIT_EIGHT 2FIVE 2FOUR 2NINE 2ONE 2SEVEN 2SIX 2THREE 2TWO 2ZERO 1LETTER_A 2AE 2BA 2BHA 2CA 2DA
    2E 2EU 2FA 2FINAL_K 3M 2GA 2HA 2I 2JA 2KA 2KHA 2LA 2LEU 2MA 2NA 2NGA 2NYA 2O 2PA 2QA 2RA 2REU
    2SA 2SYA 2TA 2U 2VA 2WA 2XA 2YA 2ZA 1PUNCTUATION_BINDU_BA_SATANGA 3CAKRA 3DA_SATANGA 3KA_SATANGA
    3LEU_SATANGA 3PANGLONG 3PURNAMA 3SURYA 1SIGN_PAMAAEH 2PANGLAYAR 2PANGWISAD 2PANYECEK 2VIRAMA
    1VOWEL_SIGN_PAMEPET 3PANAELAENG 3PANEULEUNG 3PANGHULU 3PANOLONG 3PANYUKU 0SUNFLOWER 0SUNRISE
    1OVER_MOUNTAINS 0SUNSET_OVER_BUILDINGS 0SUPERHERO 0SUPERSCRIPT_EIGHT 1EQUALS_SIGN 1FIVE 1FOUR
    1LATIN_SMALL_LETTER_I 4N 1LEFT_PARENTHESIS 1MINUS 1NINE 1ONE 1PLUS_SIGN 1RIGHT_PARENTHESIS
    1SEVEN 1SIX 1THREE 1TWO 1ZERO 0SUPERSET_ABOVE_LEFTWARDS_ARROW 2SUBSET 2SUPERSET
    1BESIDE_AND_JOINED_BY_DASH_WITH_SUBSET 2SUBSET 1OF 2ABOVE_ALMOST_EQUAL_TO 3EQUALS_SIGN
    3NOT_EQUAL_TO 3TILDE_OPERATOR 2OR_EQUAL_TO 5WITH_DOT_ABOVE 2WITH_NOT_EQUAL_TO 1PRECEDING_SOLIDUS
    1WITH_DOT 2MULTIPLICATION_SIGN_BELOW 2PLUS_SIGN_BELOW 0SUPERVILLAIN 0SURFACE_INTEGRAL 0SURFER
    0SUSHI 0SUSPENSION_RAILWAY 0SWAN 0SWASH_AMPERSAND_ORNAMENT 0SWIMMER 0SWUNG_DASH
    0SYLOTI_NAGRI_LETTER_A 3BHO 3BO 3CHO 3CO 3DDHO 3DDO 3DHO 3DO 3E 3GHO 3GO 3HO 3I 3JHO 3JO 3KHO
    3KO 3LO 3MO 3NO 3O 3PHO 3PO 3RO 3RRO 3SO 3THO 3TO 3TTHO 3TTO 3U 2POETRY_MARK-1 3MARK-2 3MARK-3
    3MARK-4 2SIGN_ALTERNATE_HASANTA 3ANUSVARA 3DVISVARA 3HASANTA 2VOWEL_SIGN_A 4E 4I 4OO 4U
    0SYMBOL_FOR_ACKNOWLEDGE 2BACKSPACE 2BELL 2CANCEL 2CARRIAGE_RETURN 2DATA_LINK_ESCAPE 2DELETE
    3FORM_TWO 2DEVICE_CONTROL_FOUR 4ONE 4THREE 4TWO 2END_OF_MEDIUM 4TEXT 4TRANSMISSION 5BLOCK
    2ENQUIRY 2ESCAPE 2FILE_SEPARATOR 2FORM_FEED 2GROUP_SEPARATOR 2HORIZONTAL_TABULATION 2LINE_FEED
    2MARKS_CHAPTER 2NEGATIVE_ACKNOWLEDGE 2NEWLINE 2NULL 2RECORD_SEPARATOR 2SAMARITAN_SOURCE
    2SHIFT_IN 3OUT 2SPACE 2START_OF_HEADING 4TEXT 2SUBSTITUTE 3FORM_TWO 2SYNCHRONOUS_IDLE
    2TYPE_A_ELECTRONICS 2UNIT_SEPARATOR 2VERTICAL_TABULATION 0SYMMETRY 0SYN 0SYNAGOGUE
    0SYNCHRONOUS_IDLE 0SYRIAC_ABBREVIATION_MARK 1BARREKH 1COLON_SKEWED_LEFT 3RIGHT 1CONTRACTION
    1DOTTED_ZLAMA_ANGULAR 3HORIZONTAL 1END_OF_PARAGRAPH 1ESASA_ABOVE 2BELOW 1FEMININE_DOT
    1HARKLEAN_ASTERISCUS 2METOBELUS 2OBELUS 1HBASA_ABOVE 2BELOW 1HBASA-ESASA_DOTTED
    1HORIZONTAL_COLON 1LETTER_ALAPH 2BETH 2DALATH 2DOTLESS_DALATH_RISH 2E 2FINAL_SEMKATH 2GAMAL
    3GARSHUNI 2HE 2HETH 2KAPH 2LAMADH 2MALAYALAM_BHA 3JA 3LLA 3LLLA 3NGA 3NNA 3NNNA 3NYA 3RA 3SSA
    3TTA 2MIM 2NUN 2PE 2PERSIAN_BHETH 3DHALATH 3GHAMAL 2QAPH 2REVERSED_PE 2RISH 2SADHE 2SEMKATH
    2SHIN 2SOGDIAN_FE 3KHAPH 3ZHAIN 2SUPERSCRIPT_ALAPH 2TAW 2TETH 3GARSHUNI 2WAW 2YUDH 3HE 2ZAIN
    1MUSIC 1OBLIQUE_LINE_ABOVE 3BELOW 1PTHAHA_ABOVE 2BELOW 2DOTTED 1QUSHSHAYA 1RBASA_ABOVE 2BELOW
    1RUKKAKHA 1RWAHA 1SUBLINEAR_COLON 3SKEWED_LEFT 4RIGHT 2FULL_STOP 1SUPRALINEAR_COLON 3SKEWED_LEFT
    2FULL_STOP 1THREE_DOTS_ABOVE 3BELOW 1TWO_VERTICAL_DOTS_ABOVE 4BELOW 1ZQAPHA_ABOVE 2BELOW 2DOTTED
    0SYRINGE
    "),
    ('T', "
    0T-REX 0T-SHIRT 0TAB 0TABLE_TENNIS_PADDLE_AND_BALL 0TACO 0TAG_AMPERSAND 1APOSTROPHE 1ASTERISK
    1CIRCUMFLEX_ACCENT 1COLON 1COMMA 1COMMERCIAL_AT 1DIGIT_EIGHT 2FIVE 2FOUR 2NINE 2ONE 2SEVEN 2SIX
    2THREE 2TWO 2ZERO 1DOLLAR_SIGN 1EQUALS_SIGN 1EXCLAMATION_MARK 1FULL_STOP 1GRAVE_ACCENT
    1GREATER-THAN_SIGN 1HYPHEN-MINUS 1LATIN_CAPITAL_LETTER_A 4B 4C 4D 4E 4F 4G 4H 4I 4J 4K 4L 4M 4N
    4O 4P 4Q 4R 4S 4T 4U 4V 4W 4X 4Y 4Z 2SMALL_LETTER_A 4B 4C 4D 4E 4F 4G 4H 4I 4J 4K 4L 4M 4N 4O 4P
    4Q 4R 4S 4T 4U 4V 4W 4X 4Y 4Z 1LEFT_CURLY_BRACKET 2PARENTHESIS 2SQUARE_BRACKET 1LESS-THAN_SIGN
    1LOW_LINE 1NUMBER_SIGN 1PERCENT_SIGN 1PLUS_SIGN 1QUESTION_MARK 1QUOTATION_MARK 1REVERSE_SOLIDUS
    1RIGHT_CURLY_BRACKET 2PARENTHESIS 2SQUARE_BRACKET 1SEMICOLON 1SOLIDUS 1SPACE 1TILDE
    1VERTICAL_LINE 0TAGALOG_LETTER_A 2ARCHAIC_RA 2BA 2DA 2GA 2HA 2I 2KA 2LA 2MA 2NA 2NGA 2PA 2RA 2SA
    2TA 2U 2WA 2YA 1SIGN_PAMUDPOD 2VIRAMA 1VOWEL_SIGN_I 3U 0TAGBANWA_LETTER_A 2BA 2DA 2GA 2I 2KA 2LA
    2MA 2NA 2NGA 2PA 2SA 2TA 2U 2WA 2YA 1VOWEL_SIGN_I 3U 0TAI_LE_LETTER_A 3AI 3AUE 3E 3EE 3EH 3FA
    3HA 3I 3KA 3KHA 3LA 3MA 3NA 3NGA 3O 3OO 3PA 3PHA 3QA 3SA 3TA 3THA 3TONE-2 3TONE-3 3TONE-4
    3TONE-5 3TONE-6 3TSA 3TSHA 3U 3UE 3VA 3XA 3YA 1THAM_COMBINING_CRYPTOGRAMMIC_DOT
    2CONSONANT_SIGN_BA 4FINAL_NGA 4HIGH_RATHA_OR_LOW_PA 4LA_TANG_LAI 4LOW_PA 4MA 4MEDIAL_LA 5RA 4SA
    2HORA_DIGIT_EIGHT 4FIVE 4FOUR 4NINE 4ONE 4SEVEN 4SIX 4THREE 4TWO 4ZERO 2LETTER_A 3BA 3DA 3EE
    3GREAT_SA 3HIGH_CA 4CHA 4FA 4HA 4KA 4KHA 4KXA 4PA 4PHA 4RATHA 4SA 4SHA 4SSA 4TA 4THA 4YA 3I 3II
    3LA 3LAE 3LLA 3LOW_CA 4CHA 4FA 4HA 4KA 4KHA 4KXA 4PA 4PHA 4RATHA 4SA 4TA 4THA 4YA 3LUE 3MA 3NA
    3NGA 3NYA 3OO 3RA 3RANA 3RATA 3RUE 3U 3UU 3WA 2SIGN_CAANG 3DOKMAI 3HANG 3HOY 3KAAN 3KAANKUU
    3KEOW 3KHUEN_TONE-3 4TONE-4 4TONE-5 3KHUEN-LUE_KARAN 3MAI_KANG 5LAI 4SAM 4YAMOK 3RA_HAAM
    3REVERSED_ROTATED_RANA 3SAKOT 3SATKAAN 3SATKAANKUU 3SAWAN 3TONE-1 3TONE-2 3WIANG 3WIANGWAAK
    2THAM_DIGIT_EIGHT 4FIVE 4FOUR 4NINE 4ONE 4SEVEN 4SIX 4THREE 4TWO 4ZERO 2VOWEL_SIGN_A 4AA 4AE 4AI
    4E 4I 4II 4MAI_SAT 4O 4OA_ABOVE 5BELOW 4OO 4OY 4TALL_AA 4THAM_AI 4U 4UE 4UU 4UUE
    1VIET_LETTER_HIGH_BO 4CHO 4CO 4DO 4FO 4GO 4HO 4KHHO 4KHO 4KO 4LO 4MO 4NGO 4NO 4NYO 4O 4PHO 4PO
    4RO 4SO 4THO 4TO 4VO 4YO 3LOW_BO 4CHO 4CO 4DO 4FO 4GO 4HO 4KHHO 4KHO 4KO 4LO 4MO 4NGO 4NO 4NYO
    4O 4PHO 4PO 4RO 4SO 4THO 4TO 4VO 4YO 2MAI_KANG 3KHIT 2SYMBOL_HO_HOI 3KOI_KOI 3KON 3NUENG 3SAM
    2TONE_MAI_EK 4NUENG 4SONG 4THO 2VOWEL_AA 3AM 3AN 3AUE 3AY 3E 3I 3IA 3O 3U 3UA 3UE 3UEA
    0TAKEOUT_BOX 0TAKRI_ABBREVIATION_SIGN 1DIGIT_EIGHT 2FIVE 2FOUR 2NINE 2ONE 2SEVEN 2SIX 2THREE
    2TWO 2ZERO 1LETTER_A 2AA 2AI 2ARCHAIC_KHA 2AU 2BA 2BHA 2CA 2CHA 2DA 2DDA 2DDHA 2DHA 2E 2GA 2GHA
    2HA 2I 2II 2JA 2JHA 2KA 2KHA 2LA 2MA 2NA 2NGA 2NNA 2NYA 2O 2PA 2PHA 2RA 2RRA 2SA 2SHA 2TA 2THA
    2TTA 2TTHA 2U 2UU 2VA 2YA 1SIGN_ANUSVARA 2NUKTA 2VIRAMA 2VISARGA 1VOWEL_SIGN_AA 3AI 3AU 3E 3I
    3II 3O 3U 3UU 0TALLY_MARK_FIVE 2ONE 0TAMALE 0TAMIL_AND_ODD_SIGN 1AS_ABOVE_SIGN 1AU_LENGTH_MARK
    1CREDIT_SIGN 1CURRENT_SIGN 1DAY_SIGN 1DEBIT_SIGN 1DIGIT_EIGHT 2FIVE 2FOUR 2NINE 2ONE 2SEVEN 2SIX
    2THREE 2TWO 2ZERO 1DRY_CULTIVATION_SIGN 1FRACTION_DOWNSCALING_FACTOR_KIIZH 2ONE_EIGHTH
    3EIGHTIETH 3FIFTH 3FORTIETH 3HALF-1 3HALF-2 3ONE-HUNDRED-AND-SIXTIETH 3QUARTER 3SIXTEENTH-1
    3SIXTEENTH-2 3SIXTY-FOURTH 3TENTH 3THIRTY-SECOND 3THREE-HUNDRED-AND-TWENTIETH 3TWENTIETH
    2THREE_EIGHTIETHS 3QUARTERS 3SIXTEENTHS 3SIXTY-FOURTHS 3TWENTIETHS 1IN_POSSESSION_SIGN
    1LAND_SIGN 1LETTER_A 2AA 2AI 2AU 2CA 2E 2EE 2HA 2I 2II 2JA 2KA 2LA 2LLA 2LLLA 2MA 2NA 2NGA 2NNA
    2NNNA 2NYA 2O 2OO 2PA 2RA 2RRA 2SA 2SHA 2SSA 2TA 2TTA 2U 2UU 2VA 2YA 1MONTH_SIGN
    1NUMBER_ONE_HUNDRED 3THOUSAND 2SIGN 2TEN 1OM 1PUNCTUATION_END_OF_TEXT 1RUPEE_SIGN 1SALT_PAN_SIGN
    1SIGN_AAZHAAKKU 2ANUSVARA 2CEVITU 2KAACU 2KURUNI 2KUZHI 2MUKKURUNI 2MUTHALIYA 2MUUVUZHAKKU 2NEL
    2PAARAM 2PANAM 2PATHAKKU 2PON 2UZHAKKU 2VAKAIYARAA 2VARAAKAN 2VELI 2VIRAMA 2VISARGA 1SPENT_SIGN
    1STARTING_FROM_SIGN 1TOTAL_SIGN 1TRADITIONAL_CREDIT_SIGN 2NUMBER_SIGN 1VOWEL_SIGN_AA 3AI 3AU 3E
    3EE 3I 3II 3O 3OO 3U 3UU 1WET_CULTIVATION_SIGN 1YEAR_SIGN 0TANABATA_TREE 0TANGERINE
    0TANGSA_DIGIT_EIGHT 2FIVE 2FOUR 2NINE 2ONE 2SEVEN 2SIX 2THREE 2TWO 2ZERO 1LETTER_AC 2AQ 2AWC
    2AWQ 2AWX 2AWZ 2AX 2AZ 2BA 2CA 2CHA 2DA 2DHA 2EC 2EQ 2EX 2EZ 2FA 2FINAL_NG 2GA 2GHA 2HA 2HTA
    2HTTA 2IC 2IQ 2IX 2IZ 2KA 2KHA 2LA 2LONG_UEX 2MA 2MC 2MQ 2MX 2MZ 2NA 2NGA 2NHA 2NYA 2OC 2OQ 2OX
    2OZ 2PA 2PHA 2RA 2SA 2SHA 2SHORT_AWX 3UEZ 2TA 2THA 2TSA 2UC 2UEC 2UEQ 2UEX 2UEZ 2UIC 2UIQ 2UIUC
    2UIUQ 2UIUX 2UIUZ 2UIX 2UIZ 2UQ 2UX 2UZ 2VC 2VQ 2VX 2VZ 2WA 2XA 2YA 2ZA 0TANGUT_COMPONENT-001
    1COMPONENT-002 1COMPONENT-003 1COMPONENT-004 1COMPONENT-005 1COMPONENT-006 1COMPONENT-007
    1COMPONENT-008 1COMPONENT-009 1COMPONENT-010 1COMPONENT-011 1COMPONENT-012 1COMPONENT-013
    1COMPONENT-014 1COMPONENT-015 1COMPONENT-016 1COMPONENT-017 1COMPONENT-018 1COMPONENT-019
    1COMPONENT-020 1COMPONENT-021 1COMPONENT-022 1COMPONENT-023 1COMPONENT-024 1COMPONENT-025
    1COMPONENT-026 1COMPONENT-027 1COMPONENT-028 1COMPONENT-029 1COMPONENT-030 1COMPONENT-031
    1COMPONENT-032 1COMPONENT-033 1COMPONENT-034 1COMPONENT-035 1COMPONENT-036 1COMPONENT-037
    1COMPONENT-038 1COMPONENT-039 1COMPONENT-040 1COMPONENT-041 1COMPONENT-042 1COMPONENT-043
    1COMPONENT-044 1COMPONENT-045 1COMPONENT-046 1COMPONENT-047 1COMPONENT-048 1COMPONENT-049
    1COMPONENT-050 1COMPONENT-051 1COMPONENT-052 1COMPONENT-053 1COMPONENT-054 1COMPONENT-055
    1COMPONENT-056 1COMPONENT-057 1COMPONENT-058 1COMPONENT-059 1COMPONENT-060 1COMPONENT-061
    1COMPONENT-062 1COMPONENT-063 1COMPONENT-064 1COMPONENT-065 1COMPONENT-066 1COMPONENT-067
    1COMPONENT-068 1COMPONENT-069 1COMPONENT-070 1COMPONENT-071 1COMPONENT-072 1COMPONENT-073
    1COMPONENT-074 1COMPONENT-075 1COMPONENT-076 1COMPONENT-077 1COMPONENT-078 1COMPONENT-079
    1COMPONENT-080 1COMPONENT-081 1COMPONENT-082 1COMPONENT-083 1COMPONENT-084 1COMPONENT-085
    1COMPONENT-086 1COMPONENT-087 1COMPONENT-088 1COMPONENT-089 1COMPONENT-090 1COMPONENT-091
    1COMPONENT-092 1COMPONENT-093 1COMPONENT-094 1COMPONENT-095 1COMPONENT-096 1COMPONENT-097
    1COMPONENT-098 1COMPONENT-099 1COMPONENT-100 1COMPONENT-101 1COMPONENT-102 1COMPONENT-103
    1COMPONENT-104 1COMPONENT-105 1COMPONENT-106 1COMPONENT-107 1COMPONENT-108 1COMPONENT-109
    1COMPONENT-110 1COMPONENT-111 1COMPONENT-112 1COMPONENT-113 1COMPONENT-114 1COMPONENT-115
    1COMPONENT-116 1COMPONENT-117 1COMPONENT-118 1COMPONENT-119 1COMPONENT-120 1COMPONENT-121
    1COMPONENT-122 1COMPONENT-123 1COMPONENT-124 1COMPONENT-125 1COMPONENT-126 1COMPONENT-127
    1COMPONENT-128 1COMPONENT-129 1COMPONENT-130 1COMPONENT-131 1COMPONENT-132 1COMPONENT-133
    1COMPONENT-134 1COMPONENT-135 1COMPONENT-136 1COMPONENT-137 1COMPONENT-138 1COMPONENT-139
    1COMPONENT-140 1COMPONENT-141 1COMPONENT-142 1COMPONENT-143 1COMPONENT-144 1COMPONENT-145
    1COMPONENT-146 1COMPONENT-147 1COMPONENT-148 1COMPONENT-149 1COMPONENT-150 1COMPONENT-151
    1COMPONENT-152 1COMPONENT-153 1COMPONENT-154 1COMPONENT-155 1COMPONENT-156 1COMPONENT-157
    1COMPONENT-158 1COMPONENT-159 1COMPONENT-160 1COMPONENT-161 1COMPONENT-162 1COMPONENT-163
    1COMPONENT-164 1COMPONENT-165 1COMPONENT-166 1COMPONENT-167 1COMPONENT-168 1COMPONENT-169
    1COMPONENT-170 1COMPONENT-171 1COMPONENT-172 1COMPONENT-173 1COMPONENT-174 1COMPONENT-175
    1COMPONENT-176 1COMPONENT-177 1COMPONENT-178 1COMPONENT-179 1COMPONENT-180 1COMPONENT-181
    1COMPONENT-182 1COMPONENT-183 1COMPONENT-184 1COMPONENT-185 1COMPONENT-186 1COMPONENT-187
    1COMPONENT-188 1COMPONENT-189 1COMPONENT-190 1COMPONENT-191 1COMPONENT-192 1COMPONENT-193
    1COMPONENT-194 1COMPONENT-195 1COMPONENT-196 1COMPONENT-197 1COMPONENT-198 1COMPONENT-199
    1COMPONENT-200 1COMPONENT-201 1COMPONENT-202 1COMPONENT-203 1COMPONENT-204 1COMPONENT-205
    1COMPONENT-206 1COMPONENT-207 1COMPONENT-208 1COMPONENT-209 1COMPONENT-210 1COMPONENT-211
    1COMPONENT-212 1COMPONENT-213 1COMPONENT-214 1COMPONENT-215 1COMPONENT-216 1COMPONENT-217
    1COMPONENT-218 1COMPONENT-219 1COMPONENT-220 1COMPONENT-221 1COMPONENT-222 1COMPONENT-223
    1COMPONENT-224 1COMPONENT-225 1COMPONENT-226 1COMPONENT-227 1COMPONENT-228 1COMPONENT-229
    1COMPONENT-230 1COMPONENT-231 1COMPONENT-232 1COMPONENT-233 1COMPONENT-234 1COMPONENT-235
    1COMPONENT-236 1COMPONENT-237 1COMPONENT-238 1COMPONENT-239 1COMPONENT-240 1COMPONENT-241
    1COMPONENT-242 1COMPONENT-243 1COMPONENT-244 1COMPONENT-245 1COMPONENT-246 1COMPONENT-247
    1COMPONENT-248 1COMPONENT-249 1COMPONENT-250 1COMPONENT-251 1COMPONENT-252 1COMPONENT-253
    1COMPONENT-254 1COMPONENT-255 1COMPONENT-256 1COMPONENT-257 1COMPONENT-258 1COMPONENT-259
    1COMPONENT-260 1COMPONENT-261 1COMPONENT-262 1COMPONENT-263 1COMPONENT-264 1COMPONENT-265
    1COMPONENT-266 1COMPONENT-267 1COMPONENT-268 1COMPONENT-269 1COMPONENT-270 1COMPONENT-271
    1COMPONENT-272 1COMPONENT-273 1COMPONENT-274 1COMPONENT-275 1COMPONENT-276 1COMPONENT-277
    1COMPONENT-278 1COMPONENT-279 1COMPONENT-280 1COMPONENT-281 1COMPONENT-282 1COMPONENT-283
    1COMPONENT-284 1COMPONENT-285 1COMPONENT-286 1COMPONENT-287 1COMPONENT-288 1COMPONENT-289
    1COMPONENT-290 1COMPONENT-291 1COMPONENT-292 1COMPONENT-293 1COMPONENT-294 1COMPONENT-295
    1COMPONENT-296 1COMPONENT-297 1COMPONENT-298 1COMPONENT-299 1COMPONENT-300 1COMPONENT-301
    1COMPONENT-302 1COMPONENT-303 1COMPONENT-304 1COMPONENT-305 1COMPONENT-306 1COMPONENT-307
    1COMPONENT-308 1COMPONENT-309 1COMPONENT-310 1COMPONENT-311 1COMPONENT-312 1COMPONENT-313
    1COMPONENT-314 1COMPONENT-315 1COMPONENT-316 1COMPONENT-317 1COMPONENT-318 1COMPONENT-319
    1COMPONENT-320 1COMPONENT-321 1COMPONENT-322 1COMPONENT-323 1COMPONENT-324 1COMPONENT-325
    1COMPONENT-326 1COMPONENT-327 1COMPONENT-328 1COMPONENT-329 1COMPONENT-330 1COMPONENT-331
    1COMPONENT-332 1COMPONENT-333 1COMPONENT-334 1COMPONENT-335 1COMPONENT-336 1COMPONENT-337
    1COMPONENT-338 1COMPONENT-339 1COMPONENT-340 1COMPONENT-341 1COMPONENT-342 1COMPONENT-343
    1COMPONENT-344 1COMPONENT-345 1COMPONENT-346 1COMPONENT-347 1COMPONENT-348 1COMPONENT-349
    1COMPONENT-350 1COMPONENT-351 1COMPONENT-352 1COMPONENT-353 1COMPONENT-354 1COMPONENT-355
    1COMPONENT-356 1COMPONENT-357 1COMPONENT-358 1COMPONENT-359 1COMPONENT-360 1COMPONENT-361
    1COMPONENT-362 1COMPONENT-363 1COMPONENT-364 1COMPONENT-365 1COMPONENT-366 1COMPONENT-367
    1COMPONENT-368 1COMPONENT-369 1COMPONENT-370 1COMPONENT-371 1COMPONENT-372 1COMPONENT-373
    1COMPONENT-374 1COMPONENT-375 1COMPONENT-376 1COMPONENT-377 1COMPONENT-378 1COMPONENT-379
    1COMPONENT-380 1COMPONENT-381 1COMPONENT-382 1COMPONENT-383 1COMPONENT-384 1COMPONENT-385
    1COMPONENT-386 1COMPONENT-387 1COMPONENT-388 1COMPONENT-389 1COMPONENT-390 1COMPONENT-391
    1COMPONENT-392 1COMPONENT-393 1COMPONENT-394 1COMPONENT-395 1COMPONENT-396 1COMPONENT-397
    1COMPONENT-398 1COMPONENT-399 1COMPONENT-400 1COMPONENT-401 1COMPONENT-402 1COMPONENT-403
    1COMPONENT-404 1COMPONENT-405 1COMPONENT-406 1COMPONENT-407 1COMPONENT-408 1COMPONENT-409
    1COMPONENT-410 1COMPONENT-411 1COMPONENT-412 1COMPONENT-413 1COMPONENT-414 1COMPONENT-415
    1COMPONENT-416 1COMPONENT-417 1COMPONENT-418 1COMPONENT-419 1COMPONENT-420 1COMPONENT-421
    1COMPONENT-422 1COMPONENT-423 1COMPONENT-424 1COMPONENT-425 1COMPONENT-426 1COMPONENT-427
    1COMPONENT-428 1COMPONENT-429 1COMPONENT-430 1COMPONENT-431 1COMPONENT-432 1COMPONENT-433
    1COMPONENT-434 1COMPONENT-435 1COMPONENT-436 1COMPONENT-437 1COMPONENT-438 1COMPONENT-439
    1COMPONENT-440 1COMPONENT-441 1COMPONENT-442 1COMPONENT-443 1COMPONENT-444 1COMPONENT-445
    1COMPONENT-446 1COMPONENT-447 1COMPONENT-448 1COMPONENT-449 1COMPONENT-450 1COMPONENT-451
    1COMPONENT-452 1COMPONENT-453 1COMPONENT-454 1COMPONENT-455 1COMPONENT-456 1COMPONENT-457
    1COMPONENT-458 1COMPONENT-459 1COMPONENT-460 1COMPONENT-461 1COMPONENT-462 1COMPONENT-463
    1COMPONENT-464 1COMPONENT-465 1COMPONENT-466 1COMPONENT-467 1COMPONENT-468 1COMPONENT-469
    1COMPONENT-470 1COMPONENT-471 1COMPONENT-472 1COMPONENT-473 1COMPONENT-474 1COMPONENT-475
    1COMPONENT-476 1COMPONENT-477 1COMPONENT-478 1COMPONENT-479 1COMPONENT-480 1COMPONENT-481
    1COMPONENT-482 1COMPONENT-483 1COMPONENT-484 1COMPONENT-485 1COMPONENT-486 1COMPONENT-487
    1COMPONENT-488 1COMPONENT-489 1COMPONENT-490 1COMPONENT-491 1COMPONENT-492 1COMPONENT-493
    1COMPONENT-494 1COMPONENT-495 1COMPONENT-496 1COMPONENT-497 1COMPONENT-498 1COMPONENT-499
    1COMPONENT-500 1COMPONENT-501 1COMPONENT-502 1COMPONENT-503 1COMPONENT-504 1COMPONENT-505
    1COMPONENT-506 1COMPONENT-507 1COMPONENT-508 1COMPONENT-509 1COMPONENT-510 1COMPONENT-511
    1COMPONENT-512 1COMPONENT-513 1COMPONENT-514 1COMPONENT-515 1COMPONENT-516 1COMPONENT-517
    1COMPONENT-518 1COMPONENT-519 1COMPONENT-520 1COMPONENT-521 1COMPONENT-522 1COMPONENT-523
    1COMPONENT-524 1COMPONENT-525 1COMPONENT-526 1COMPONENT-527 1COMPONENT-528 1COMPONENT-529
    1COMPONENT-530 1COMPONENT-531 1COMPONENT-532 1COMPONENT-533 1COMPONENT-534 1COMPONENT-535
    1COMPONENT-536 1COMPONENT-537 1COMPONENT-538 1COMPONENT-539 1COMPONENT-540 1COMPONENT-541
    1COMPONENT-542 1COMPONENT-543 1COMPONENT-544 1COMPONENT-545 1COMPONENT-546 1COMPONENT-547
    1COMPONENT-548 1COMPONENT-549 1COMPONENT-550 1COMPONENT-551 1COMPONENT-552 1COMPONENT-553
    1COMPONENT-554 1COMPONENT-555 1COMPONENT-556 1COMPONENT-557 1COMPONENT-558 1COMPONENT-559
    1COMPONENT-560 1COMPONENT-561 1COMPONENT-562 1COMPONENT-563 1COMPONENT-564 1COMPONENT-565
    1COMPONENT-566 1COMPONENT-567 1COMPONENT-568 1COMPONENT-569 1COMPONENT-570 1COMPONENT-571
    1COMPONENT-572 1COMPONENT-573 1COMPONENT-574 1COMPONENT-575 1COMPONENT-576 1COMPONENT-577
    1COMPONENT-578 1COMPONENT-579 1COMPONENT-580 1COMPONENT-581 1COMPONENT-582 1COMPONENT-583
    1COMPONENT-584 1COMPONENT-585 1COMPONENT-586 1COMPONENT-587 1COMPONENT-588 1COMPONENT-589
    1COMPONENT-590 1COMPONENT-591 1COMPONENT-592 1COMPONENT-593 1COMPONENT-594 1COMPONENT-595
    1COMPONENT-596 1COMPONENT-597 1COMPONENT-598 1COMPONENT-599 1COMPONENT-600 1COMPONENT-601
    1COMPONENT-602 1COMPONENT-603 1COMPONENT-604 1COMPONENT-605 1COMPONENT-606 1COMPONENT-607
    1COMPONENT-608 1COMPONENT-609 1COMPONENT-610 1COMPONENT-611 1COMPONENT-612 1COMPONENT-613
    1COMPONENT-614 1COMPONENT-615 1COMPONENT-616 1COMPONENT-617 1COMPONENT-618 1COMPONENT-619
    1COMPONENT-620 1COMPONENT-621 1COMPONENT-622 1COMPONENT-623 1COMPONENT-624 1COMPONENT-625
    1COMPONENT-626 1COMPONENT-627 1COMPONENT-628 1COMPONENT-629 1COMPONENT-630 1COMPONENT-631
    1COMPONENT-632 1COMPONENT-633 1COMPONENT-634 1COMPONENT-635 1COMPONENT-636 1COMPONENT-637
    1COMPONENT-638 1COMPONENT-639 1COMPONENT-640 1COMPONENT-641 1COMPONENT-642 1COMPONENT-643
    1COMPONENT-644 1COMPONENT-645 1COMPONENT-646 1COMPONENT-647 1COMPONENT-648 1COMPONENT-649
    1COMPONENT-650 1COMPONENT-651 1COMPONENT-652 1COMPONENT-653 1COMPONENT-654 1COMPONENT-655
    1COMPONENT-656 1COMPONENT-657 1COMPONENT-658 1COMPONENT-659 1COMPONENT-660 1COMPONENT-661
    1COMPONENT-662 1COMPONENT-663 1COMPONENT-664 1COMPONENT-665 1COMPONENT-666 1COMPONENT-667
    1COMPONENT-668 1COMPONENT-669 1COMPONENT-670 1COMPONENT-671 1COMPONENT-672 1COMPONENT-673
    1COMPONENT-674 1COMPONENT-675 1COMPONENT-676 1COMPONENT-677 1COMPONENT-678 1COMPONENT-679
    1COMPONENT-680 1COMPONENT-681 1COMPONENT-682 1COMPONENT-683 1COMPONENT-684 1COMPONENT-685
    1COMPONENT-686 1COMPONENT-687 1COMPONENT-688 1COMPONENT-689 1COMPONENT-690 1COMPONENT-691
    1COMPONENT-692 1COMPONENT-693 1COMPONENT-694 1COMPONENT-695 1COMPONENT-696 1COMPONENT-697
    1COMPONENT-698 1COMPONENT-699 1COMPONENT-700 1COMPONENT-701 1COMPONENT-702 1COMPONENT-703
    1COMPONENT-704 1COMPONENT-705 1COMPONENT-706 1COMPONENT-707 1COMPONENT-708 1COMPONENT-709
    1COMPONENT-710 1COMPONENT-711 1COMPONENT-712 1COMPONENT-713 1COMPONENT-714 1COMPONENT-715
    1COMPONENT-716 1COMPONENT-717 1COMPONENT-718 1COMPONENT-719 1COMPONENT-720 1COMPONENT-721
    1COMPONENT-722 1COMPONENT-723 1COMPONENT-724 1COMPONENT-725 1COMPONENT-726 1COMPONENT-727
    1COMPONENT-728 1COMPONENT-729 1COMPONENT-730 1COMPONENT-731 1COMPONENT-732 1COMPONENT-733
    1COMPONENT-734 1COMPONENT-735 1COMPONENT-736 1COMPONENT-737 1COMPONENT-738 1COMPONENT-739
    1COMPONENT-740 1COMPONENT-741 1COMPONENT-742 1COMPONENT-743 1COMPONENT-744 1COMPONENT-745
    1COMPONENT-746 1COMPONENT-747 1COMPONENT-748 1COMPONENT-749 1COMPONENT-750 1COMPONENT-751
    1COMPONENT-752 1COMPONENT-753 1COMPONENT-754 1COMPONENT-755 1COMPONENT-756 1COMPONENT-757
    1COMPONENT-758 1COMPONENT-759 1COMPONENT-760 1COMPONENT-761 1COMPONENT-762 1COMPONENT-763
    1COMPONENT-764 1COMPONENT-765 1COMPONENT-766 1COMPONENT-767 1COMPONENT-768 1ITERATION_MARK
    0TAPE_CARTRIDGE 1DRIVE 0TAURUS 0TAXI 0TEACUP_WITHOUT_HANDLE 0TEAPOT 0TEAR-OFF_CALENDAR
    0TEARDROP-BARBED_RIGHTWARDS_ARROW 0TEARDROP-SPOKED_ASTERISK 0TEDDY_BEAR 0TELEPHONE_LOCATION_SIGN
    1ON_TOP_OF_MODEM 1RECEIVER 2WITH_PAGE 1RECORDER 1SIGN 0TELESCOPE 0TELEVISION
    0TELUGU_AI_LENGTH_MARK 1DIGIT_EIGHT 2FIVE 2FOUR 2NINE 2ONE 2SEVEN 2SIX 2THREE 2TWO 2ZERO
    1FRACTION_DIGIT_ONE_FOR_EVEN_POWERS_OF_FOUR 5ODD_POWERS_OF_FOUR 3THREE_FOR_EVEN_POWERS_OF_FOUR
    5ODD_POWERS_OF_FOUR 3TWO_FOR_EVEN_POWERS_OF_FOUR 5ODD_POWERS_OF_FOUR
    3ZERO_FOR_ODD_POWERS_OF_FOUR 1LENGTH_MARK 1LETTER_A 2AA 2AI 2AU 2BA 2BHA 2CA 2CHA 2DA 2DDA 2DDHA
    2DHA 2DZA 2E 2EE 2GA 2GHA 2HA 2I 2II 2JA 2JHA 2KA 2KHA 2LA 2LLA 2LLLA 2MA 2NA 2NAKAARA_POLLU
    2NGA 2NNA 2NYA 2O 2OO 2PA 2PHA 2RA 2RRA 2RRRA 2SA 2SHA 2SSA 2TA 2THA 2TSA 2TTA 2TTHA 2U 2UU 2VA
    2VOCALIC_L 3LL 3R 3RR 2YA 1SIGN_ANUSVARA 2AVAGRAHA 2CANDRABINDU 2COMBINING_ANUSVARA_ABOVE
    3CANDRABINDU_ABOVE 2NUKTA 2SIDDHAM 2TUUMU 2VIRAMA 2VISARGA 1VOWEL_SIGN_AA 3AI 3AU 3E 3EE 3I 3II
    3O 3OO 3U 3UU 3VOCALIC_L 4LL 4R 4RR 0TENGE_SIGN 0TENNIS_RACQUET_AND_BALL 0TENT 0TEST_TUBE
    0TETRAGRAM_FOR_ACCUMULATION 2ADVANCE 2AGGRAVATION 2ASCENT 2BARRIER 2BOLD_RESOLUTION
    2BRANCHING_OUT 2CENTRE 2CHANGE 2CLOSED_MOUTH 2CLOSENESS 2CLOSURE 2COMPLETION 2COMPLIANCE
    2CONSTANCY 2CONTACT 2CONTENTION 2CONTRARIETY 2DARKENING 2DECISIVENESS
    2DEFECTIVENESS_OR_DISTORTION 2DEPARTURE 2DIFFICULTIES 2DIMINISHMENT 2DIMMING 2DIVERGENCE 2DOUBT
    2DUTIES 2EASE 2EMBELLISHMENT 2ENCOUNTERS 2ENDEAVOUR 2ENLARGEMENT 2ETERNITY 2EXHAUSTION 2FAILURE
    2FLIGHT 2FOLLOWING 2FOSTERING 2FULL_CIRCLE 2FULLNESS 2GATHERING 3IN 2GOING_TO_MEET 2GREATNESS
    2GUARDEDNESS 2HARDNESS 2HOLDING_BACK 2INCREASE 2INNER 2JOY 2KEEPING_SMALL 2KINSHIP 2LABOURING
    2LAW_OR_MODEL 2LEGION 2MASSING 2MEASURE 2MIRED 2ON_THE_VERGE 2OPPOSITION 2PACKING 2PATTERN
    2PENETRATION 2PURITY 2REACH 2RELEASE 2RESIDENCE 2RESISTANCE 2RESPONSE 2RITUAL 2SEVERANCE
    2SINKING 2STOPPAGE 2STOVE 2STRENGTH 2UNITY 2VASTNESS_OR_WASTING 2WAITING 2WATCH 2YOUTHFULNESS
    0THAANA_AABAAFILI 1ABAFILI 1EBEFILI 1EEBEEFILI 1EYBEYFILI 1IBIFILI 1LETTER_AINU 2ALIFU 2BAA
    2CHAVIYANI 2DAADHU 2DAVIYANI 2DHAALU 2FAAFU 2GAAFU 2GHAINU 2GNAVIYANI 2HAA 2HHAA 2JAVIYANI
    2KAAFU 2KHAA 2LAAMU 2LHAVIYANI 2MEEMU 2NAA 2NOONU 2PAVIYANI 2QAAFU 2RAA 2SAADHU 2SEENU
    2SHAVIYANI 2SHEENU 2TAVIYANI 2THAA 2THAALU 2TO 2TTAA 2VAAVU 2WAAVU 2YAA 2ZAA 2ZAVIYANI 2ZO
    1OABOAFILI 1OBOFILI 1OOBOOFILI 1SUKUN 1UBUFILI 0THAI_CHARACTER_ANGKHANKHU 2BO_BAIMAI 2CHO_CHAN
    3CHANG 3CHING 3CHOE 2DO_CHADA 3DEK 2FO_FA 3FAN 2FONGMAN 2HO_HIP 3NOKHUK 2KHO_KHAI 3KHON 3KHUAT
    3KHWAI 3RAKHANG 2KHOMUT 2KO_KAI 2LAKKHANGYAO 2LO_CHULA 3LING 2LU 2MAI_CHATTAWA 3EK 3HAN-AKAT
    3THO 3TRI 2MAITAIKHU 2MAIYAMOK 2MO_MA 2NGO_NGU 2NIKHAHIT 2NO_NEN 3NU 2O_ANG 2PAIYANNOI 2PHINTHU
    2PHO_PHAN 3PHUNG 3SAMPHAO 2PO_PLA 2RO_RUA 2RU 2SARA_A 3AA 3AE 3AI_MAIMALAI 4MAIMUAN 3AM 3E 3I
    3II 3O 3U 3UE 3UEE 3UU 2SO_RUSI 3SALA 3SO 3SUA 2THANTHAKHAT 2THO_NANGMONTHO 3PHUTHAO 3THAHAN
    3THAN 3THONG 3THUNG 2TO_PATAK 3TAO 2WO_WAEN 2YAMAKKAN 2YO_YAK 3YING 1CURRENCY_SYMBOL_BAHT
    1DIGIT_EIGHT 2FIVE 2FOUR 2NINE 2ONE 2SEVEN 2SIX 2THREE 2TWO 2ZERO 0THERE_DOES_NOT_EXIST 1EXISTS
    0THEREFORE 0THERMODYNAMIC 0THERMOMETER 0THIN_GREEK_CROSS 1SALTIRE 1SPACE 0THINKING_FACE
    0THIRD_PLACE_MEDAL 0THONG_SANDAL 0THOUGHT_BALLOON 0THREE_BUTTON_MOUSE 1CONSECUTIVE_EQUALS_SIGNS
    1DIMENSIONAL_ANGLE 1DOT_PUNCTUATION 1LEFTWARDS_ARROWS 1LINES_CONVERGING_LEFT 3RIGHT
    1NETWORKED_COMPUTERS 1POINTED_BLACK_STAR 1RAYS_ABOVE 2BELOW 2LEFT 2RIGHT 1RIGHTWARDS_ARROWS
    1SPEECH_BUBBLES 0THREE-D_BOTTOM-LIGHTED_RIGHTWARDS_ARROWHEAD
    1LEFT-LIGHTED_DOWNWARDS_EQUILATERAL_ARROWHEAD 1RIGHT-LIGHTED_UPWARDS_EQUILATERAL_ARROWHEAD
    1TOP-LIGHTED_LEFTWARDS_EQUILATERAL_ARROWHEAD 2RIGHTWARDS_ARROWHEAD 3EQUILATERAL_ARROWHEAD
    0THREE-EM_DASH 0THREE-PER-EM_SPACE 0THUMBS_DOWN_SIGN 1UP_SIGN 0THUNDER_CLOUD_AND_RAIN
    0THUNDERSTORM 0TIBETAN_ASTROLOGICAL_SIGN_-KHYUD_PA 3SDONG_TSHUGS 3SGRA_GCAN_-CHAR_RTAGS
    1CANTILLATION_SIGN_CANG_TE-U 3HEAVY_BEAT 3LIGHT_BEAT 3SBUB_-CHAL 1DIGIT_EIGHT 2FIVE 2FOUR
    2HALF_EIGHT 3FIVE 3FOUR 3NINE 3ONE 3SEVEN 3SIX 3THREE 3TWO 3ZERO 2NINE 2ONE 2SEVEN 2SIX 2THREE
    2TWO 2ZERO 1KU_RU_KHA 4BZHI_MIG_CAN 1LETTER_-A 2A 2BA 2BHA 2CA 2CHA 2DA 2DDA 2DDHA 2DHA 2DZA
    2DZHA 2FIXED-FORM_RA 2GA 2GHA 2HA 2JA 2KA 2KHA 2KKA 2KSSA 2LA 2MA 2NA 2NGA 2NNA 2NYA 2PA 2PHA
    2RA 2RRA 2SA 2SHA 2SSA 2TA 2THA 2TSA 2TSHA 2TTA 2TTHA 2WA 2YA 2ZA 2ZHA 1LOGOTYPE_SIGN_CHAD_RTAGS
    3LHAG_RTAGS 1MARK_ANG_KHANG_GYAS 4GYON 2BKA-_SHOG_GI_MGO_RGYAN 4YIG_MGO 2BSDUS_RTAGS
    2BSKA-_SHOG_GI_MGO_RGYAN 2BSKUR_YIG_MGO 2CARET_-DZUD_RTAGS_BZHI_MIG_CAN 5ME_LONG_CAN
    3YIG_MGO_PHUR_SHAD_MA 2CHE_MGO 2CLOSING_BRDA_RNYING_YIG_MGO_SGAB_MA 3YIG_MGO_SGAB_MA
    2DELIMITER_TSHEG_BSTAR 2GTER_TSHEG 3YIG_MGO_-UM_GTER_TSHEG_MA 6RNAM_BCAD_MA 5TRUNCATED_A
    2GUG_RTAGS_GYAS 4GYON 2HALANTA 2INITIAL_BRDA_RNYING_YIG_MGO_MDUN_MA 3YIG_MGO_MDUN_MA
    2INTERSYLLABIC_TSHEG 2LEADING_MCHAN_RTAGS 2MNYAM_YIG_GI_MGO_RGYAN 2NGAS_BZUNG_NYI_ZLA
    4SGOR_RTAGS 2NYIS_SHAD 3TSHEG 4SHAD 2PALUTA 2RGYA_GRAM_SHAD 2RIN_CHEN_SPUNGS_SHAD 2SBRUL_SHAD
    2SHAD 2TRAILING_MCHAN_RTAGS 2TSA_-PHRU 2TSHEG_SHAD 2YIG_MGO_TSHEG_SHAD_MA 1SIGN_GRU_CAN_RGYINGS
    3MED_RGYINGS 2INVERTED_MCHU_CAN 2LCE_TSA_CAN 2LCI_RTAGS 2MAR_TSHES 2MCHU_CAN 2NYI_ZLA_NAA_DA
    2RDEL_DKAR_GCIG 4GNYIS 4GSUM 4RDEL_NAG 3NAG_GCIG 4GNYIS 4GSUM 4RDEL_DKAR 2RJES_SU_NGA_RO
    2RNAM_BCAD 2SNA_LDAN 2YANG_RTAGS 2YAR_TSHES 1SUBJOINED_LETTER_-A 3A 3BA 3BHA 3CA 3CHA 3DA 3DDA
    3DDHA 3DHA 3DZA 3DZHA 3FIXED-FORM_RA 4WA 4YA 3GA 3GHA 3HA 3JA 3KA 3KHA 3KSSA 3LA 3MA 3NA 3NGA
    3NNA 3NYA 3PA 3PHA 3RA 3SA 3SHA 3SSA 3TA 3THA 3TSA 3TSHA 3TTA 3TTHA 3WA 3YA 3ZA 3ZHA
    2SIGN_INVERTED_MCHU_CAN 3LCE_TSA_CAN 3MCHU_CAN 1SYLLABLE_OM 1SYMBOL_DRIL_BU 2NOR_BU 4BZHI_-KHYIL
    4GSUM_-KHYIL 4NYIS_-KHYIL 2PADMA_GDAN 2PHUR_PA 2RDO_RJE 4RGYA_GRAM 1VOWEL_SIGN_AA 3E 3EE 3I 3II
    3O 3OO 3REVERSED_I 4II 3U 3UU 3VOCALIC_L 4LL 4R 4RR 0TICKET 0TIE_OVER_INFINITY
    0TIFINAGH_CONSONANT_JOINER 1LETTER_AHAGGAR_YAZH 2AYER_YAGH 2BERBER_ACADEMY_YAH 4YAJ
    2TAWELLEMET_YAZ 2TUAREG_YAGH 3YAGN 3YAH 3YAK 3YAKH 3YANG 3YAQ 3YAZH 2YA 2YAA 2YAB 2YABH 2YACH
    2YAD 2YADD 2YADDH 2YADH 2YAF 2YAG 2YAGH 2YAGHH 2YAH 2YAHH 2YAJ 2YAK 2YAKH 2YAKHH 2YAL 2YAM 2YAN
    2YAP 2YAQ 2YAR 2YARR 2YAS 2YASH 2YASS 2YAT 2YATH 2YATT 2YAV 2YAW 2YAY 2YAZ 2YAZH 2YAZZ 2YE 2YEY
    2YI 2YO 2YU 1MODIFIER_LETTER_LABIALIZATION_MARK 1SEPARATOR_MARK 0TIGER 1FACE
    0TIGHT_TRIFOLIATE_SNOWFLAKE 0TILDE 1OPERATOR 2ABOVE_LEFTWARDS_ARROW 3RIGHTWARDS_ARROW
    2WITH_DOT_ABOVE 3RISING_DOTS 1WITH_DOT_ABOVE 3BELOW 2RING_ABOVE 0TIMER_CLOCK
    0TIMES_WITH_LEFT_HALF_BLACK 2RIGHT_HALF_BLACK 0TINY 1TWO_DOTS_OVER_ONE_DOT_PUNCTUATION
    0TIRED_FACE 0TIRHUTA_ABBREVIATION_SIGN 1ANJI 1DIGIT_EIGHT 2FIVE 2FOUR 2NINE 2ONE 2SEVEN 2SIX
    2THREE 2TWO 2ZERO 1GVANG 1LETTER_A 2AA 2AI 2AU 2BA 2BHA 2CA 2CHA 2DA 2DDA 2DDHA 2DHA 2E 2GA 2GHA
    2HA 2I 2II 2JA 2JHA 2KA 2KHA 2LA 2MA 2NA 2NGA 2NNA 2NYA 2O 2PA 2PHA 2RA 2SA 2SHA 2SSA 2TA 2THA
    2TTA 2TTHA 2U 2UU 2VA 2VOCALIC_L 3LL 3R 3RR 2YA 1OM 1SIGN_ANUSVARA 2AVAGRAHA 2CANDRABINDU 2NUKTA
    2VIRAMA 2VISARGA 1VOWEL_SIGN_AA 3AI 3AU 3E 3I 3II 3O 3SHORT_E 4O 3U 3UU 3VOCALIC_L 4LL 4R 4RR
    0TIRONIAN_SIGN_CAPITAL_ET 2ET 0TOILET 0TOKYO_TOWER 0TOMATO 0TONGUE 0TOOLBOX 0TOOTH 0TOOTHBRUSH
    0TOP_ARC_ANTICLOCKWISE_ARROW 4WITH_PLUS 2CLOCKWISE_ARROW_WITH_MINUS 1CURLY_BRACKET
    1HALF_BLACK_CIRCLE 2INTEGRAL 2LEFT_PARENTHESIS 2RIGHT_PARENTHESIS 2SECTION_SIGN 1HAT
    1LEFT_CORNER 2CROP 2HALF_BRACKET 1PARENTHESIS 1RIGHT_CORNER 2CROP 2HALF_BRACKET 1SQUARE_BRACKET
    1TORTOISE_SHELL_BRACKET 1WITH_UPWARDS_ARROW_ABOVE
    0TORTOISE_SHELL_BRACKETED_CJK_UNIFIED_IDEOGRAPH-4E09 5IDEOGRAPH-4E8C 5IDEOGRAPH-52DD
    5IDEOGRAPH-5B89 5IDEOGRAPH-6253 5IDEOGRAPH-6557 5IDEOGRAPH-672C 5IDEOGRAPH-70B9 5IDEOGRAPH-76D7
    3LATIN_CAPITAL_LETTER_S 0TOTAL_RUNOUT 0TOTO_LETTER_A 2AE 2BA 2BREATHY_AE 3E 3EO 3I 3IU 2CHA 2DA
    2E 2EO 2GA 2HA 2I 2IU 2JA 2KA 2LA 2MA 2NA 2NGA 2O 2PA 2RA 2SA 2TA 2U 2WA 2YA 1SIGN_RISING_TONE
    0TRACKBALL 0TRACTOR 0TRADE_MARK_SIGN 0TRAIN 0TRAM 1CAR 0TRANSPLUTO 0TRANSVERSAL_INTERSECTION
    0TRIANGLE_WITH_DOT_ABOVE 2ROUNDED_CORNERS 2SERIFS_AT_BOTTOM 2UNDERBAR
    0TRIANGLE-HEADED_RIGHTWARDS_ARROW 0TRIANGULAR_BULLET 1FLAG_ON_POST 1RULER 0TRICOLON
    0TRIDENT_EMBLEM 0TRIGRAM_FOR_EARTH 2FIRE 2HEAVEN 2LAKE 2MOUNTAIN 2THUNDER 2WATER 2WIND
    0TRIPLE_COLON_OPERATOR 1DAGGER 1HORIZONTAL_BAR_WITH_DOUBLE_VERTICAL_STROKE
    4TRIPLE_VERTICAL_STROKE 1INTEGRAL 1NESTED_GREATER-THAN 2LESS-THAN 1PLUS 1PRIME
    1SOLIDUS_BINARY_RELATION 1TILDE 1VERTICAL_BAR_BINARY_RELATION 3DELIMITER 3RIGHT_TURNSTILE
    3WITH_HORIZONTAL_STROKE 0TROLL 0TROLLEYBUS 0TROPHY 0TROPICAL_DRINK 1FISH 0TRUE 1LIGHT_MOON_ARTA
    0TRUMPET 0TUGRIK_SIGN 0TULIP 0TUMBLER_GLASS 0TURKEY 0TURKISH_LIRA_SIGN 0TURNED_AMPERSAND 1ANGLE
    1BLACK_PENTAGON 2SHOGI_PIECE 1CAPITAL_F 1COMMA 1DAGGER 1DIGIT_THREE 2TWO
    1GREEK_SMALL_LETTER_IOTA 1NORTH_EAST_POINTING_LEAF 2WEST_POINTING_LEAF 1NOT_SIGN 1OK_HAND_SIGN
    1SANS-SERIF_CAPITAL_G 3L 3Y 1SEMICOLON 1SMALL_F 1SOUTH_EAST_POINTING_LEAF 2WEST_POINTING_LEAF
    1WHITE_SHOGI_PIECE 0TURTLE 0TWELVE_POINTED_BLACK_STAR 0TWISTED_RIGHTWARDS_ARROWS
    0TWO_ASTERISKS_ALIGNED_VERTICALLY 1BUTTON_MOUSE 1CONSECUTIVE_EQUALS_SIGNS 1DOT_LEADER
    2PUNCTUATION 1DOTS_OVER_ONE_DOT_PUNCTUATION 1HEARTS 1INTERSECTING_LOGICAL_AND 3OR
    1JOINED_SQUARES 1LOGICAL_AND_OPERATOR 2OR_OPERATOR 1MEN_HOLDING_HANDS 1SPEECH_BUBBLES
    1WOMEN_HOLDING_HANDS 0TWO-EM_DASH
    "),
    ('U', "
    0UGARITIC_LETTER_AIN 2ALPA 2BETA 2DELTA 2DHAL 2GAMLA 2GHAIN 2HO 2HOTA 2I 2KAF 2KHA 2LAMDA 2MEM
    2NUN 2PU 2QOPA 2RASHA 2SADE 2SAMKA 2SHIN 2SSU 2TET 2THANNA 2TO 2U 2WO 2YOD 2ZETA 2ZU
    1WORD_DIVIDER 0UMBRELLA 1ON_GROUND 1WITH_RAIN_DROPS 0UNAMUSED_FACE 0UNCERTAINTY_SIGN 0UNDERTIE
    0UNDO_SYMBOL 0UNICORN_FACE 0UNION 1ABOVE_BAR_ABOVE_INTERSECTION 2INTERSECTION
    1BESIDE_AND_JOINED_WITH_UNION 1WITH_LOGICAL_OR 2MINUS_SIGN 2OVERBAR 0UNIT_SEPARATOR
    0UNITED_SYMBOL 0UNIVERSAL_RECYCLING_SYMBOL 0UNMARRIED_PARTNERSHIP_SYMBOL
    0UP_ARROW_THROUGH_CIRCLE 1ARROWHEAD 2BETWEEN_TWO_HORIZONTAL_BARS 2IN_A_RECTANGLE_BOX
    1BARB_LEFT_DOWN_BARB_LEFT_HARPOON 5RIGHT_HARPOON 2RIGHT_DOWN_BARB_LEFT_HARPOON 5RIGHT_HARPOON
    1DOWN_ARROW 3WITH_BASE 2BLACK_ARROW 2DOUBLE_ARROW 2SANS-SERIF_ARROW 2TRIANGLE-HEADED_ARROW
    2WHITE_ARROW 1FISH_TAIL 1RIGHT_DIAGONAL_ELLIPSIS 1TACK 2WITH_CIRCLE_ABOVE 0UP-POINTING_AIRPLANE
    1MILITARY_AIRPLANE 1RED_TRIANGLE 1SMALL_AIRPLANE 2RED_TRIANGLE 1TRIANGLE_WITH_LEFT_HALF_BLACK
    3RIGHT_HALF_BLACK 0UPPER_AND_LEFT_AND_LOWER_TRIANGULAR_THREE_QUARTERS_BLOCK
    2LOWER_ONE_EIGHTH_BLOCK 3TRIANGULAR_HALF_BLOCK 2RIGHT_AND_LOWER_TRIANGULAR_THREE_QUARTERS_BLOCK
    1BLADE_SCISSORS 1FIVE_EIGHTHS_BLOCK 1HALF_BLOCK 3AND_LOWER_HALF_INVERSE_MEDIUM_SHADE 2CIRCLE
    2INVERSE_MEDIUM_SHADE_AND_LOWER_HALF_BLOCK 3WHITE_CIRCLE 2MEDIUM_SHADE
    1LEFT_BLOCK_DIAGONAL_LOWER_CENTRE_TO_LOWER_MIDDLE_RIGHT 7UPPER_MIDDLE_RIGHT 8RIGHT
    5LEFT_TO_LOWER_MIDDLE_RIGHT 7UPPER_CENTRE 8MIDDLE_RIGHT 5MIDDLE_LEFT_TO_UPPER_CENTRE
    9MIDDLE_RIGHT 9RIGHT 4UPPER_MIDDLE_LEFT_TO_UPPER_CENTRE 9RIGHT 2CORNER_WITH_DOT
    2OR_LOWER_RIGHT_CURLY_BRACKET_SECTION 2QUADRANT_CIRCULAR_ARC 2TO_LOWER_RIGHT_FILL 2TRIANGLE
    2TRIANGULAR_MEDIUM_SHADE 1ONE_EIGHTH_BLOCK 2QUARTER_BLOCK
    1RIGHT_BLOCK_DIAGONAL_LOWER_MIDDLE_LEFT_TO_LOWER_CENTRE 9RIGHT
    4UPPER_CENTRE_TO_LOWER_MIDDLE_RIGHT 8RIGHT 7UPPER_MIDDLE_RIGHT 5LEFT_TO_LOWER_CENTRE
    8MIDDLE_RIGHT 7UPPER_MIDDLE_RIGHT 5MIDDLE_LEFT_TO_LOWER_CENTRE 9MIDDLE_RIGHT 9RIGHT
    2DROP-SHADOWED_WHITE_SQUARE 2OR_LOWER_LEFT_CURLY_BRACKET_SECTION 2PENCIL 2QUADRANT_CIRCULAR_ARC
    2SHADOWED_WHITE_CIRCLE 4SQUARE 2TO_LOWER_LEFT_FILL 2TRIANGLE 2TRIANGULAR_MEDIUM_SHADE
    1SEVEN_EIGHTHS_BLOCK 1THREE_EIGHTHS_BLOCK 2QUARTERS_BLOCK 1TRIANGULAR_ONE_QUARTER_BLOCK
    0UPSIDE-DOWN_FACE 0UPWARDS_ANCORA 1ARROW 2AND_RIGHT_ONE_EIGHTH_BLOCK 2FROM_BAR
    2LEFTWARDS_OF_DOWNWARDS_ARROW 2TO_BAR 2WITH_DOUBLE_STROKE 3EQUILATERAL_ARROWHEAD
    3HORIZONTAL_STROKE 3LARGE_TRIANGLE_ARROWHEAD 3MEDIUM_TRIANGLE_ARROWHEAD 3NOTCHED_TAIL
    3SMALL_EQUILATERAL_ARROWHEAD 4TRIANGLE_ARROWHEAD 3TIP_LEFTWARDS 4RIGHTWARDS 1BLACK_ARROW
    2CIRCLED_WHITE_ARROW 1COMPRESSED_ARROW 1DASHED_ARROW 1DOUBLE_ARROW 1FINGER-POST_ARROW
    1HARPOON_WITH_BARB_LEFT_BESIDE_DOWNWARDS_HARPOON_WITH_BARB_RIGHT
    6UPWARDS_HARPOON_WITH_BARB_RIGHT 5FROM_BAR 5TO_BAR 4LEFTWARDS 4RIGHT_FROM_BAR 5TO_BAR
    4RIGHTWARDS 1HEAVY_ARROW 2COMPRESSED_ARROW 1PAIRED_ARROWS 1QUADRUPLE_ARROW 1ROCKET
    1SANS-SERIF_ARROW 1SQUARED_ARROW 1TRIANGLE_ARROWHEAD 1TRIANGLE-HEADED_ARROW
    3LEFTWARDS_OF_DOWNWARDS_TRIANGLE-HEADED_ARROW 3TO_BAR 3WITH_BOLD_SHAFT 4DOUBLE_HORIZONTAL_STROKE
    4HEAVY_SHAFT 4LONG_TIP_LEFTWARDS 6RIGHTWARDS 4MEDIUM_SHAFT 4NARROW_SHAFT 4VERY_HEAVY_SHAFT
    2DASHED_ARROW 2PAIRED_ARROWS 1TRIPLE_ARROW 1TWO_HEADED_ARROW 1TWO-HEADED_ARROW_FROM_SMALL_CIRCLE
    3WITH_TRIANGLE_ARROWHEADS 1WHITE_ARROW 3FROM_BAR 5WITH_HORIZONTAL_BAR 3ON_PEDESTAL
    5WITH_HORIZONTAL_BAR 6VERTICAL_BAR 3WITHIN_TRIANGLE_ARROWHEAD 2DOUBLE_ARROW 4ON_PEDESTAL 0URANUS
    0US
    "),
    ('V', "
    0VAI_COMMA 1DIGIT_EIGHT 2FIVE 2FOUR 2NINE 2ONE 2SEVEN 2SIX 2THREE 2TWO 2ZERO 1FULL_STOP
    1QUESTION_MARK 1SYLLABLE_A 2AN 2BA 2BE 2BEE 2BHA 2BHE 2BHEE 2BHI 2BHO 2BHOO 2BHU 2BI 2BO 2BOO
    2BU 2CA 2CE 2CEE 2CI 2CO 2COO 2CU 2DA 2DE 2DEE 2DHA 2DHE 2DHEE 2DHHA 2DHHE 2DHHEE 2DHHI 2DHHO
    2DHHOO 2DHHU 2DHI 2DHO 2DHOO 2DHU 2DI 2DO 2DOO 2DU 2E 2EE 2EEN 2EN 2FA 2FE 2FEE 2FI 2FO 2FOO 2FU
    2GA 2GBA 2GBE 2GBEE 2GBEN 2GBI 2GBO 2GBON 2GBOO 2GBU 2GE 2GEE 2GEN 2GI 2GO 2GOO 2GU 2HA 2HAN 2HE
    2HEE 2HEN 2HI 2HIN 2HO 2HON 2HOO 2HU 2HUN 2I 2IN 2JA 2JE 2JEE 2JI 2JO 2JOO 2JU 2KA 2KAN 2KE 2KEE
    2KI 2KO 2KOO 2KPA 2KPAN 2KPE 2KPEE 2KPEN 2KPI 2KPO 2KPOO 2KPU 2KU 2LA 2LE 2LEE 2LENGTHENER 2LI
    2LO 2LOO 2LU 2MA 2MBA 2MBE 2MBEE 2MBI 2MBO 2MBOO 2MBU 2ME 2MEE 2MGBA 2MGBE 2MGBEE 2MGBI 2MGBO
    2MGBOO 2MGBU 2MI 2MO 2MOO 2MU 2NA 2NDA 2NDE 2NDEE 2NDI 2NDO 2NDOLE_DO 3FA 3KA 3MA 3SOO 2NDOO
    2NDU 2NE 2NEE 2NG 2NGAN 2NGEN 2NGGA 2NGGE 2NGGEE 2NGGEN 2NGGI 2NGGO 2NGGOO 2NGGU 2NGON 2NI 2NJA
    2NJE 2NJEE 2NJI 2NJO 2NJOO 2NJU 2NO 2NOO 2NU 2NYA 2NYE 2NYEE 2NYI 2NYO 2NYOO 2NYU 2O 2ON 2OO
    2OON 2PA 2PE 2PEE 2PI 2PO 2POO 2PU 2RA 2RE 2REE 2RI 2RO 2ROO 2RU 2SA 2SE 2SEE 2SHA 2SHE 2SHEE
    2SHI 2SHO 2SHOO 2SHU 2SI 2SO 2SOO 2SU 2TA 2TE 2TEE 2THA 2THE 2THEE 2THI 2THO 2THOO 2THU 2TI 2TO
    2TOO 2TU 2U 2UN 2VA 2VE 2VEE 2VI 2VO 2VOO 2VU 2WA 2WAN 2WE 2WEE 2WEEN 2WEN 2WI 2WIN 2WO 2WON
    2WOO 2WOON 2WU 2WUN 2YA 2YE 2YEE 2YI 2YO 2YOO 2YU 2ZA 2ZE 2ZEE 2ZHA 2ZHE 2ZHEE 2ZHI 2ZHO 2ZHOO
    2ZHU 2ZI 2ZO 2ZOO 2ZU 1SYMBOL_BANG 2DANG 2DO-O 2DOONG 2FAA 2FEENG 2JONG 2KEENG 2KUNG 2NII 2TAA
    2TING 2TONG 0VAMPIRE 0VARIATION_SELECTOR-1 1SELECTOR-10 1SELECTOR-100 1SELECTOR-101
    1SELECTOR-102 1SELECTOR-103 1SELECTOR-104 1SELECTOR-105 1SELECTOR-106 1SELECTOR-107
    1SELECTOR-108 1SELECTOR-109 1SELECTOR-11 1SELECTOR-110 1SELECTOR-111 1SELECTOR-112 1SELECTOR-113
    1SELECTOR-114 1SELECTOR-115 1SELECTOR-116 1SELECTOR-117 1SELECTOR-118 1SELECTOR-119 1SELECTOR-12
    1SELECTOR-120 1SELECTOR-121 1SELECTOR-122 1SELECTOR-123 1SELECTOR-124 1SELECTOR-125
    1SELECTOR-126 1SELECTOR-127 1SELECTOR-128 1SELECTOR-129 1SELECTOR-13 1SELECTOR-130 1SELECTOR-131
    1SELECTOR-132 1SELECTOR-133 1SELECTOR-134 1SELECTOR-135 1SELECTOR-136 1SELECTOR-137
    1SELECTOR-138 1SELECTOR-139 1SELECTOR-14 1SELECTOR-140 1SELECTOR-141 1SELECTOR-142 1SELECTOR-143
    1SELECTOR-144 1SELECTOR-145 1SELECTOR-146 1SELECTOR-147 1SELECTOR-148 1SELECTOR-149 1SELECTOR-15
    1SELECTOR-150 1SELECTOR-151 1SELECTOR-152 1SELECTOR-153 1SELECTOR-154 1SELECTOR-155
    1SELECTOR-156 1SELECTOR-157 1SELECTOR-158 1SELECTOR-159 1SELECTOR-16 1SELECTOR-160 1SELECTOR-161
    1SELECTOR-162 1SELECTOR-163 1SELECTOR-164 1SELECTOR-165 1SELECTOR-166 1SELECTOR-167
    1SELECTOR-168 1SELECTOR-169 1SELECTOR-17 1SELECTOR-170 1SELECTOR-171 1SELECTOR-172 1SELECTOR-173
    1SELECTOR-174 1SELECTOR-175 1SELECTOR-176 1SELECTOR-177 1SELECTOR-178 1SELECTOR-179 1SELECTOR-18
    1SELECTOR-180 1SELECTOR-181 1SELECTOR-182 1SELECTOR-183 1SELECTOR-184 1SELECTOR-185
    1SELECTOR-186 1SELECTOR-187 1SELECTOR-188 1SELECTOR-189 1SELECTOR-19 1SELECTOR-190 1SELECTOR-191
    1SELECTOR-192 1SELECTOR-193 1SELECTOR-194 1SELECTOR-195 1SELECTOR-196 1SELECTOR-197
    1SELECTOR-198 1SELECTOR-199 1SELECTOR-2 1SELECTOR-20 1SELECTOR-200 1SELECTOR-201 1SELECTOR-202
    1SELECTOR-203 1SELECTOR-204 1SELECTOR-205 1SELECTOR-206 1SELECTOR-207 1SELECTOR-208
    1SELECTOR-209 1SELECTOR-21 1SELECTOR-210 1SELECTOR-211 1SELECTOR-212 1SELECTOR-213 1SELECTOR-214
    1SELECTOR-215 1SELECTOR-216 1SELECTOR-217 1SELECTOR-218 1SELECTOR-219 1SELECTOR-22 1SELECTOR-220
    1SELECTOR-221 1SELECTOR-222 1SELECTOR-223 1SELECTOR-224 1SELECTOR-225 1SELECTOR-226
    1SELECTOR-227 1SELECTOR-228 1SELECTOR-229 1SELECTOR-23 1SELECTOR-230 1SELECTOR-231 1SELECTOR-232
    1SELECTOR-233 1SELECTOR-234 1SELECTOR-235 1SELECTOR-236 1SELECTOR-237 1SELECTOR-238
    1SELECTOR-239 1SELECTOR-24 1SELECTOR-240 1SELECTOR-241 1SELECTOR-242 1SELECTOR-243 1SELECTOR-244
    1SELECTOR-245 1SELECTOR-246 1SELECTOR-247 1SELECTOR-248 1SELECTOR-249 1SELECTOR-25 1SELECTOR-250
    1SELECTOR-251 1SELECTOR-252 1SELECTOR-253 1SELECTOR-254 1SELECTOR-255 1SELECTOR-256 1SELECTOR-26
    1SELECTOR-27 1SELECTOR-28 1SELECTOR-29 1SELECTOR-3 1SELECTOR-30 1SELECTOR-31 1SELECTOR-32
    1SELECTOR-33 1SELECTOR-34 1SELECTOR-35 1SELECTOR-36 1SELECTOR-37 1SELECTOR-38 1SELECTOR-39
    1SELECTOR-4 1SELECTOR-40 1SELECTOR-41 1SELECTOR-42 1SELECTOR-43 1SELECTOR-44 1SELECTOR-45
    1SELECTOR-46 1SELECTOR-47 1SELECTOR-48 1SELECTOR-49 1SELECTOR-5 1SELECTOR-50 1SELECTOR-51
    1SELECTOR-52 1SELECTOR-53 1SELECTOR-54 1SELECTOR-55 1SELECTOR-56 1SELECTOR-57 1SELECTOR-58
    1SELECTOR-59 1SELECTOR-6 1SELECTOR-60 1SELECTOR-61 1SELECTOR-62 1SELECTOR-63 1SELECTOR-64
    1SELECTOR-65 1SELECTOR-66 1SELECTOR-67 1SELECTOR-68 1SELECTOR-69 1SELECTOR-7 1SELECTOR-70
    1SELECTOR-71 1SELECTOR-72 1SELECTOR-73 1SELECTOR-74 1SELECTOR-75 1SELECTOR-76 1SELECTOR-77
    1SELECTOR-78 1SELECTOR-79 1SELECTOR-8 1SELECTOR-80 1SELECTOR-81 1SELECTOR-82 1SELECTOR-83
    1SELECTOR-84 1SELECTOR-85 1SELECTOR-86 1SELECTOR-87 1SELECTOR-88 1SELECTOR-89 1SELECTOR-9
    1SELECTOR-90 1SELECTOR-91 1SELECTOR-92 1SELECTOR-93 1SELECTOR-94 1SELECTOR-95 1SELECTOR-96
    1SELECTOR-97 1SELECTOR-98 1SELECTOR-99 0VECTOR_OR_CROSS_PRODUCT
    0VEDIC_SIGN_ANUSVARA_ANTARGOMUKHA 3BAHIRGOMUKHA 3UBHAYATO_MUKHA 3VAMAGOMUKHA 4WITH_TAIL
    2ARDHAVISARGA 2ATIKRAMA 2DOUBLE_ANUSVARA_ANTARGOMUKHA 2HEXIFORM_LONG_ANUSVARA 2JIHVAMULIYA
    2LONG_ANUSVARA 2NIHSHVASA 2REVERSED_VISARGA_ANUDATTA 4UDATTA 2ROTATED_ARDHAVISARGA
    2RTHANG_LONG_ANUSVARA 2TIRYAK 2UPADHMANIYA 2VISARGA_ANUDATTA 4WITH_TAIL 3SVARITA 3UDATTA
    4WITH_TAIL 2YAJURVEDIC_MIDLINE_SVARITA 1TONE_ATHARVAVEDIC_INDEPENDENT_SVARITA 2CANDRA_ABOVE
    3BELOW 2DOT_BELOW 2DOUBLE_RING_ABOVE 3SVARITA 2KARSHANA 2KATHAKA_ANUDATTA 2PRENKHA
    2RIGVEDIC_KASHMIRI_INDEPENDENT_SVARITA 2RING_ABOVE 2SHARA 2THREE_DOTS_BELOW 2TRIPLE_SVARITA
    2TWO_DOTS_BELOW 2YAJURVEDIC_AGGRAVATED_INDEPENDENT_SVARITA 3INDEPENDENT_SVARITA
    3KATHAKA_INDEPENDENT_SVARITA 6SCHROEDER 0VERSICLE 0VERTICAL_BAR_BESIDE_RIGHT_TRIANGLE
    2DOUBLE_LEFT_TURNSTILE 2TRIPLE_RIGHT_TURNSTILE 2WITH_HORIZONTAL_STROKE 1ELLIPSIS 1FOUR_DOTS
    1IDEOGRAPHIC_ITERATION_MARK 1KANA_REPEAT_MARK 4LOWER_HALF 4UPPER_HALF 3WITH_VOICED_SOUND_MARK
    7UPPER_HALF 1LINE 2EXTENSION 2WITH_CIRCLE_ABOVE 4BELOW 3MIDDLE_DOT 1MALE_WITH_STROKE_SIGN
    1ONE_EIGHTH_BLOCK-2 3BLOCK-3 3BLOCK-4 3BLOCK-5 3BLOCK-6 3BLOCK-7 1SIX_DOTS 1TAB_KEY 1TABULATION
    2SET 1TILDE 1TRAFFIC_LIGHT 1ZIGZAG_LINE 0VERY_BOLD_GREEK_CROSS 1HEAVY_EIGHT_POINTED_BLACK_STAR
    3SPOKED_ASTERISK 2FIVE_SPOKED_ASTERISK 2GREEK_CROSS 2REVERSE_SOLIDUS 2SALTIRE
    2SIX_SPOKED_ASTERISK 2SOLIDUS 2WHITE_CIRCLE 3SQUARE 1MUCH_GREATER-THAN 2LESS-THAN 0VESTA
    0VIBRATION_MODE 0VICTORY_HAND 0VIDEO_CAMERA 1GAME 0VIDEOCASSETTE
    0VIETNAMESE_ALTERNATE_READING_MARK_CA 4NHAY 0VIEWDATA_SQUARE 0VIOLIN 0VIRGO
    0VITHKUQI_CAPITAL_LETTER_A 3BBE 3BE 3CE 3CHE 3DE 3DHE 3E 3EI 3FE 3GA 3HA 3HHA 3I 3IJE 3JE 3KA
    3LA 3LLA 3ME 3NE 3NJE 3O 3PE 3QA 3RE 3SE 3SHE 3TE 3THE 3U 3VE 3XE 3Y 3ZE 1SMALL_LETTER_A 3BBE
    3BE 3CE 3CHE 3DE 3DHE 3E 3EI 3FE 3GA 3HA 3HHA 3I 3IJE 3JE 3KA 3LA 3LLA 3ME 3NE 3NJE 3O 3PE 3QA
    3RE 3SE 3SHE 3TE 3THE 3U 3VE 3XE 3Y 3ZE 0VOIDED_GREEK_CROSS 0VOLCANO 0VOLLEYBALL
    0VOLUME_INTEGRAL 0VS1 0VS10 0VS100 0VS101 0VS102 0VS103 0VS104 0VS105 0VS106 0VS107 0VS108
    0VS109 0VS11 0VS110 0VS111 0VS112 0VS113 0VS114 0VS115 0VS116 0VS117 0VS118 0VS119 0VS12 0VS120
    0VS121 0VS122 0VS123 0VS124 0VS125 0VS126 0VS127 0VS128 0VS129 0VS13 0VS130 0VS131 0VS132 0VS133
    0VS134 0VS135 0VS136 0VS137 0VS138 0VS139 0VS14 0VS140 0VS141 0VS142 0VS143 0VS144 0VS145 0VS146
    0VS147 0VS148 0VS149 0VS15 0VS150 0VS151 0VS152 0VS153 0VS154 0VS155 0VS156 0VS157 0VS158 0VS159
    0VS16 0VS160 0VS161 0VS162 0VS163 0VS164 0VS165 0VS166 0VS167 0VS168 0VS169 0VS17 0VS170 0VS171
    0VS172 0VS173 0VS174 0VS175 0VS176 0VS177 0VS178 0VS179 0VS18 0VS180 0VS181 0VS182 0VS183 0VS184
    0VS185 0VS186 0VS187 0VS188 0VS189 0VS19 0VS190 0VS191 0VS192 0VS193 0VS194 0VS195 0VS196 0VS197
    0VS198 0VS199 0VS2 0VS20 0VS200 0VS201 0VS202 0VS203 0VS204 0VS205 0VS206 0VS207 0VS208 0VS209
    0VS21 0VS210 0VS211 0VS212 0VS213 0VS214 0VS215 0VS216 0VS217 0VS218 0VS219 0VS22 0VS220 0VS221
    0VS222 0VS223 0VS224 0VS225 0VS226 0VS227 0VS228 0VS229 0VS23 0VS230 0VS231 0VS232 0VS233 0VS234
    0VS235 0VS236 0VS237 0VS238 0VS239 0VS24 0VS240 0VS241 0VS242 0VS243 0VS244 0VS245 0VS246 0VS247
    0VS248 0VS249 0VS25 0VS250 0VS251 0VS252 0VS253 0VS254 0VS255 0VS256 0VS26 0VS27 0VS28 0VS29
    0VS3 0VS30 0VS31 0VS32 0VS33 0VS34 0VS35 0VS36 0VS37 0VS38 0VS39 0VS4 0VS40 0VS41 0VS42 0VS43
    0VS44 0VS45 0VS46 0VS47 0VS48 0VS49 0VS5 0VS50 0VS51 0VS52 0VS53 0VS54 0VS55 0VS56 0VS57 0VS58
    0VS59 0VS6 0VS60 0VS61 0VS62 0VS63 0VS64 0VS65 0VS66 0VS67 0VS68 0VS69 0VS7 0VS70 0VS71 0VS72
    0VS73 0VS74 0VS75 0VS76 0VS77 0VS78 0VS79 0VS8 0VS80 0VS81 0VS82 0VS83 0VS84 0VS85 0VS86 0VS87
    0VS88 0VS89 0VS9 0VS90 0VS91 0VS92 0VS93 0VS94 0VS95 0VS96 0VS97 0VS98 0VS99 0VT 0VTS 0VULCANUS
    0VULGAR_FRACTION_FIVE_EIGHTHS 3SIXTHS 2FOUR_FIFTHS 2ONE_EIGHTH 3FIFTH 3HALF 3NINTH 3QUARTER
    3SEVENTH 3SIXTH 3TENTH 3THIRD 2SEVEN_EIGHTHS 2THREE_EIGHTHS 3FIFTHS 3QUARTERS 2TWO_FIFTHS
    3THIRDS 2ZERO_THIRDS
    "),
    ('W', "
    0WAFFLE 0WANCHO_DIGIT_EIGHT 2FIVE 2FOUR 2NINE 2ONE 2SEVEN 2SIX 2THREE 2TWO 2ZERO 1LETTER_A 2AA
    2AAN 2AANG 2ANG 2AU 2BA 2CA 2DA 2E 2EN 2FA 2GA 2HA 2I 2ING 2JA 2KA 2KHA 2LA 2LLHA 2MA 2NA 2NGA
    2NYA 2O 2ON 2ONG 2PA 2PHA 2RA 2SA 2SHA 2TA 2THA 2TRA 2TSA 2U 2UEN 2VA 2WA 2YA 2YIH 2ZA
    1NGUN_SIGN 1TONE_KOI 2KOINI 2TUP 2TUPNI 0WANING_CRESCENT_MOON_SYMBOL 1GIBBOUS_MOON_SYMBOL
    0WARANG_CITI_CAPITAL_LETTER_A 4AM 4ANG 4AT 4BU 4DA 4E 4ENN 4ENY 4GA 4HAR 4HIYO 4HOLO 4HORR 4II
    4KO 4NGAA 4NUNG 4O 4ODD 4PU 4SII 4SSUU 4TTE 4UC 4UU 4VIYO 4WI 4YA 4YO 4YU 4YUJ 2DIGIT_EIGHT
    3FIVE 3FOUR 3NINE 3ONE 3SEVEN 3SIX 3THREE 3TWO 3ZERO 2NUMBER_EIGHTY 3FIFTY 3FORTY 3NINETY
    3SEVENTY 3SIXTY 3TEN 3THIRTY 3TWENTY 2OM 2SMALL_LETTER_A 4AM 4ANG 4AT 4BU 4DA 4E 4ENN 4ENY 4GA
    4HAR 4HIYO 4HOLO 4HORR 4II 4KO 4NGAA 4NUNG 4O 4ODD 4PU 4SII 4SSUU 4TTE 4UC 4UU 4VIYO 4WI 4YA 4YO
    4YU 4YUJ 0WARNING_SIGN 0WASTEBASKET 0WATCH 0WATER_BUFFALO 1CLOSET 1POLO 1WAVE 0WATERMELON
    0WAVE_ARROW_POINTING_DIRECTLY_LEFT 4RIGHT 1DASH 0WAVING_BLACK_FLAG 1HAND_SIGN 1WHITE_FLAG
    0WAVY_DASH 1LINE 1LOW_LINE 1OVERLINE 0WAXING_CRESCENT_MOON_SYMBOL 1GIBBOUS_MOON_SYMBOL
    0WEARY_CAT_FACE 1FACE 0WEDDING 0WEDGE-TAILED_RIGHTWARDS_ARROW 0WEIERSTRASS_ELLIPTIC_FUNCTION
    0WEIGHT_LIFTER 0WEST_SYRIAC_CROSS 0WHALE 0WHEEL 1OF_DHARMA 0WHEELCHAIR_SYMBOL
    0WHITE_ARROW_SHAFT_WIDTH_ONE 4TWO_THIRDS 1BULLET 1CHESS_BISHOP 3ROTATED_NINETY_DEGREES
    4TWO_HUNDRED_SEVENTY_DEGREES 2EQUIHOPPER 3ROTATED_NINETY_DEGREES 2KING 3ROTATED_NINETY_DEGREES
    4TWO_HUNDRED_SEVENTY_DEGREES 2KNIGHT 3ROTATED_FORTY-FIVE_DEGREES 4NINETY_DEGREES
    4ONE_HUNDRED_THIRTY-FIVE_DEGREES 4THREE_HUNDRED_FIFTEEN_DEGREES 4TWO_HUNDRED_SEVENTY_DEGREES
    6TWENTY-FIVE_DEGREES 2KNIGHT-BISHOP 2KNIGHT-QUEEN 2KNIGHT-ROOK 2PAWN 3ROTATED_NINETY_DEGREES
    4TWO_HUNDRED_SEVENTY_DEGREES 2QUEEN 3ROTATED_NINETY_DEGREES 4TWO_HUNDRED_SEVENTY_DEGREES 2ROOK
    3ROTATED_NINETY_DEGREES 4TWO_HUNDRED_SEVENTY_DEGREES 2TURNED_BISHOP 3KING 3KNIGHT 3PAWN 3QUEEN
    3ROOK 1CIRCLE 2CONTAINING_BLACK_SMALL_CIRCLE 2WITH_DOT_RIGHT 3DOWN_ARROW 3LOWER_LEFT_QUADRANT
    4RIGHT_QUADRANT 3TWO_DOTS 3UPPER_LEFT_QUADRANT 4RIGHT_QUADRANT 1CLUB_SUIT 1CONCAVE-SIDED_DIAMOND
    3WITH_LEFTWARDS_TICK 4RIGHTWARDS_TICK 1DIAMOND 2CONTAINING_BLACK_MEDIUM_DIAMOND 4SMALL_DIAMOND
    4VERY_SMALL_DIAMOND 2IN_SQUARE 2SUIT 2WITH_CENTRED_DOT 1DOWN_POINTING_BACKHAND_INDEX 3INDEX
    3LEFT_HAND_INDEX 1DOWN-POINTING_SMALL_TRIANGLE 2TRIANGLE 1DRAUGHTS_KING 2MAN
    1EXCLAMATION_MARK_ORNAMENT 1FLAG 2WITH_HORIZONTAL_MIDDLE_BLACK_STRIPE 1FLORETTE 1FLOWER
    1FOUR_POINTED_CUSP 3STAR 1FROWNING_FACE 1HARD_SHELL_FLOPPY_DISK 1HEART 2SUIT 1HEAVY_CHECK_MARK
    2SALTIRE_WITH_ROUNDED_CORNERS 1HEXAGON 1HORIZONTAL_ELLIPSE 1HOURGLASS 1LARGE_SQUARE 1LATIN_CROSS
    1LEFT_LANE_MERGE 2POINTING_BACKHAND_INDEX 3INDEX 1LEFT-POINTING_POINTER 2SMALL_TRIANGLE
    2TRIANGLE 1LOZENGE_CONTAINING_BLACK_SMALL_LOZENGE 1MEDIUM_DIAMOND 2LOZENGE 2SMALL_SQUARE 2SQUARE
    2STAR 1MOON_SELENA 1NIB 1PARALLELOGRAM 1PENNANT 1PENTAGON 1QUESTION_MARK_ORNAMENT 1RECTANGLE
    1RIGHT_POINTING_BACKHAND_INDEX 3INDEX 1RIGHT-POINTING_PENTAGON 2POINTER 2SMALL_TRIANGLE
    2TRIANGLE 1SCISSORS 1SESAME_DOT 1SHOGI_PIECE 1SMALL_LOZENGE 2SQUARE 2STAR 1SMILING_FACE
    1SPADE_SUIT 1SQUARE 2BUTTON 2CONTAINING_BLACK_MEDIUM_SQUARE 4SMALL_SQUARE 4VERY_SMALL_SQUARE
    2WITH_CENTRE_VERTICAL_LINE 3LEFTWARDS_TICK 3LOWER_LEFT_QUADRANT 4RIGHT_QUADRANT 3RIGHTWARDS_TICK
    3ROUNDED_CORNERS 3UPPER_LEFT_QUADRANT 4RIGHT_QUADRANT 3VERTICAL_BISECTING_LINE 1STAR 1SUN
    2BEHIND_CLOUD 4WITH_RAIN 2WITH_RAYS 3SMALL_CLOUD 1TELEPHONE 1TOUCHTONE_TELEPHONE 1TRAPEZIUM
    1TRIANGLE_CONTAINING_SMALL_WHITE_TRIANGLE 1TWO-WAY_LEFT_WAY_TRAFFIC 1UP_POINTING_BACKHAND_INDEX
    3INDEX 1UP-POINTING_CHEVRON 2SMALL_TRIANGLE 2TRIANGLE 3WITH_DOT 1VERTICAL_BAR 2ELLIPSE
    2RECTANGLE 1VERY_SMALL_SQUARE 0WHITE-FEATHERED_RIGHTWARDS_ARROW
    0WIDE-HEADED_DOWNWARDS_BARB_ARROW 2HEAVY_BARB_ARROW 2LIGHT_BARB_ARROW 2MEDIUM_BARB_ARROW
    2VERY_HEAVY_BARB_ARROW 1LEFTWARDS_BARB_ARROW 2HEAVY_BARB_ARROW 2LIGHT_BARB_ARROW
    2MEDIUM_BARB_ARROW 2VERY_HEAVY_BARB_ARROW 1NORTH_EAST_BARB_ARROW 3HEAVY_BARB_ARROW
    3LIGHT_BARB_ARROW 3MEDIUM_BARB_ARROW 3VERY_HEAVY_BARB_ARROW 2WEST_BARB_ARROW 3HEAVY_BARB_ARROW
    3LIGHT_BARB_ARROW 3MEDIUM_BARB_ARROW 3VERY_HEAVY_BARB_ARROW 1RIGHTWARDS_BARB_ARROW
    2HEAVY_BARB_ARROW 2LIGHT_BARB_ARROW 2MEDIUM_BARB_ARROW 2VERY_HEAVY_BARB_ARROW
    1SOUTH_EAST_BARB_ARROW 3HEAVY_BARB_ARROW 3LIGHT_BARB_ARROW 3MEDIUM_BARB_ARROW
    3VERY_HEAVY_BARB_ARROW 2WEST_BARB_ARROW 3HEAVY_BARB_ARROW 3LIGHT_BARB_ARROW 3MEDIUM_BARB_ARROW
    3VERY_HEAVY_BARB_ARROW 1UPWARDS_BARB_ARROW 2HEAVY_BARB_ARROW 2LIGHT_BARB_ARROW
    2MEDIUM_BARB_ARROW 2VERY_HEAVY_BARB_ARROW 0WIGGLY_VERTICAL_LINE 0WILTED_FLOWER
    0WIND_BLOWING_FACE 1CHIME 0WINDOW 0WINE_GLASS 0WINKING_FACE 0WIRED_KEYBOARD 0WJ 0WOLF_FACE
    0WOMAN 1WITH_BUNNY_EARS 0WOMANS_BOOTS 1CLOTHES 1HAT 1SANDAL 0WOMENS_SYMBOL 0WON_SIGN 0WOOD
    0WORD_JOINER 1SEPARATOR_MIDDLE_DOT 0WORLD_MAP 0WORM 0WORRIED_FACE 0WRAPPED_PRESENT
    0WREATH_PRODUCT 0WRENCH 0WRESTLERS 0WRITING_HAND
    "),
    ('X', "
    0X_IN_A_RECTANGLE_BOX 0X-RAY 0XIANGQI_BLACK_CANNON 2CHARIOT 2ELEPHANT 2GENERAL 2HORSE 2MANDARIN
    2SOLDIER 1RED_CANNON 2CHARIOT 2ELEPHANT 2GENERAL 2HORSE 2MANDARIN 2SOLDIER 0XOR
    "),
    ('Y', "
    0YAWNING_FACE 0YELLOW_HEART 0YEN_SIGN 0YEZIDI_COMBINING_HAMZA_MARK 2MADDA_MARK 1HYPHENATION_MARK
    1LETTER_BE 2CHHIM 2CHIM 2CIM 2DAD 2DAL 2ELIF 2ET 2EW 2EYN 2FA 2GAF 2HAY 2HHA 2JA 2KAF 2KHAF 2LAM
    3WITH_DOT_ABOVE 2MIM 2NUN 2OW 2PE 2PHE 2QAF 2RA 2RHA 2SAD 2SE 2SHIN 2SIN 2TA 2THE 2UM 2VA
    3ALTERNATE_FORM 2WAW 2XA 2XHEYN 2YOT 3WITH_CIRCUMFLEX_ABOVE 2ZA 2ZAL 2ZE 0YI_RADICAL_BBUT 2BUR
    2CHE 2CIP 2CUOP 2CY 2CYP 2CYT 2DDUR 2DU 2GA 2GEP 2GGOP 2GGUO 2GOT 2HMO 2HXIT 2HXOP 2HXUO 2JJIE
    2JJUT 2JJY 2JO 2KE 2KIT 2LI 2LIE 2LYR 2MI 2MOP 2NBIE 2NYIP 2NYOP 2NZUP 2OP 2PUT 2PYT 2QOT 2SHAT
    2SHOP 2SHUR 2SHY 2SSI 2TAT 2TU 2VEP 2VUR 2WO 2YIT 2YO 2ZA 2ZOT 2ZUP 2ZUR 2ZZIET 1SYLLABLE_A 2AP
    2AT 2AX 2BA 2BAP 2BAT 2BAX 2BBA 2BBAP 2BBAT 2BBAX 2BBE 2BBEP 2BBEX 2BBI 2BBIE 2BBIEP 2BBIET
    2BBIEX 2BBIP 2BBIT 2BBIX 2BBO 2BBOP 2BBOT 2BBOX 2BBU 2BBUO 2BBUOP 2BBUOX 2BBUP 2BBUR 2BBURX
    2BBUT 2BBUX 2BBY 2BBYP 2BBYT 2BBYX 2BE 2BEP 2BEX 2BI 2BIE 2BIEP 2BIET 2BIEX 2BIP 2BIT 2BIX 2BO
    2BOP 2BOT 2BOX 2BU 2BUO 2BUOP 2BUOX 2BUP 2BUR 2BURX 2BUT 2BUX 2BY 2BYP 2BYR 2BYRX 2BYT 2BYX 2CA
    2CAP 2CAT 2CAX 2CE 2CEP 2CEX 2CHA 2CHAP 2CHAT 2CHAX 2CHE 2CHEP 2CHET 2CHEX 2CHO 2CHOP 2CHOT
    2CHOX 2CHU 2CHUO 2CHUOP 2CHUOT 2CHUOX 2CHUP 2CHUR 2CHURX 2CHUX 2CHY 2CHYP 2CHYR 2CHYRX 2CHYT
    2CHYX 2CI 2CIE 2CIEP 2CIET 2CIEX 2CIP 2CIT 2CIX 2CO 2COP 2COT 2COX 2CU 2CUO 2CUOP 2CUOX 2CUP
    2CUR 2CURX 2CUT 2CUX 2CY 2CYP 2CYR 2CYRX 2CYT 2CYX 2DA 2DAP 2DAT 2DAX 2DDA 2DDAP 2DDAT 2DDAX
    2DDE 2DDEP 2DDEX 2DDI 2DDIE 2DDIEP 2DDIEX 2DDIP 2DDIT 2DDIX 2DDO 2DDOP 2DDOT 2DDOX 2DDU 2DDUO
    2DDUOP 2DDUOX 2DDUP 2DDUR 2DDURX 2DDUT 2DDUX 2DE 2DEP 2DEX 2DI 2DIE 2DIEP 2DIEX 2DIP 2DIT 2DIX
    2DO 2DOP 2DOT 2DOX 2DU 2DUO 2DUOX 2DUP 2DUR 2DURX 2DUT 2DUX 2E 2EX 2FA 2FAP 2FAT 2FAX 2FI 2FIP
    2FIT 2FIX 2FO 2FOP 2FOX 2FU 2FUP 2FUR 2FURX 2FUT 2FUX 2FY 2FYP 2FYT 2FYX 2GA 2GAP 2GAT 2GAX 2GE
    2GEP 2GET 2GEX 2GGA 2GGAP 2GGAT 2GGAX 2GGE 2GGEP 2GGET 2GGEX 2GGI 2GGIE 2GGIEP 2GGIEX 2GGIT
    2GGIX 2GGO 2GGOP 2GGOT 2GGOX 2GGU 2GGUO 2GGUOP 2GGUOT 2GGUOX 2GGUP 2GGUR 2GGURX 2GGUT 2GGUX 2GI
    2GIE 2GIEP 2GIET 2GIEX 2GIP 2GIT 2GIX 2GO 2GOP 2GOT 2GOX 2GU 2GUO 2GUOP 2GUOT 2GUOX 2GUP 2GUR
    2GURX 2GUT 2GUX 2HA 2HAP 2HAT 2HAX 2HE 2HEP 2HEX 2HIE 2HIEX 2HIT 2HLA 2HLAP 2HLAT 2HLAX 2HLE
    2HLEP 2HLEX 2HLI 2HLIE 2HLIEP 2HLIEX 2HLIP 2HLIT 2HLIX 2HLO 2HLOP 2HLOX 2HLU 2HLUO 2HLUOP 2HLUOX
    2HLUP 2HLUR 2HLURX 2HLUT 2HLUX 2HLY 2HLYP 2HLYR 2HLYRX 2HLYT 2HLYX 2HMA 2HMAP 2HMAT 2HMAX 2HMI
    2HMIE 2HMIEP 2HMIEX 2HMIP 2HMIT 2HMIX 2HMO 2HMOP 2HMOT 2HMOX 2HMU 2HMUO 2HMUOP 2HMUOX 2HMUP
    2HMUR 2HMURX 2HMUT 2HMUX 2HMY 2HMYP 2HMYR 2HMYRX 2HMYX 2HNA 2HNAP 2HNAT 2HNAX 2HNE 2HNEP 2HNEX
    2HNI 2HNIE 2HNIEP 2HNIET 2HNIEX 2HNIP 2HNIT 2HNIX 2HNOP 2HNOT 2HNOX 2HNUO 2HNUOX 2HNUT 2HO 2HOP
    2HOT 2HOX 2HUO 2HUOP 2HUOT 2HUOX 2HXA 2HXAP 2HXAT 2HXAX 2HXE 2HXEP 2HXEX 2HXI 2HXIE 2HXIEP
    2HXIET 2HXIEX 2HXIP 2HXIT 2HXIX 2HXO 2HXOP 2HXOT 2HXOX 2HXUO 2HXUOP 2HXUOT 2HXUOX 2I 2IE 2IEP
    2IET 2IEX 2IP 2IT 2ITERATION_MARK 2IX 2JI 2JIE 2JIEP 2JIET 2JIEX 2JIP 2JIT 2JIX 2JJI 2JJIE
    2JJIEP 2JJIET 2JJIEX 2JJIP 2JJIT 2JJIX 2JJO 2JJOP 2JJOT 2JJOX 2JJU 2JJUO 2JJUOP 2JJUOX 2JJUP
    2JJUR 2JJURX 2JJUT 2JJUX 2JJY 2JJYP 2JJYT 2JJYX 2JO 2JOP 2JOT 2JOX 2JU 2JUO 2JUOP 2JUOT 2JUOX
    2JUP 2JUR 2JURX 2JUT 2JUX 2JY 2JYP 2JYR 2JYRX 2JYT 2JYX 2KA 2KAP 2KAT 2KAX 2KE 2KEP 2KET 2KEX
    2KI 2KIE 2KIEP 2KIEX 2KIP 2KIT 2KIX 2KO 2KOP 2KOT 2KOX 2KU 2KUO 2KUOP 2KUOX 2KUP 2KUR 2KURX 2KUT
    2KUX 2LA 2LAP 2LAT 2LAX 2LE 2LEP 2LEX 2LI 2LIE 2LIEP 2LIET 2LIEX 2LIP 2LIT 2LIX 2LO 2LOP 2LOT
    2LOX 2LU 2LUO 2LUOP 2LUOT 2LUOX 2LUP 2LUR 2LURX 2LUT 2LUX 2LY 2LYP 2LYR 2LYRX 2LYT 2LYX 2MA 2MAP
    2MAT 2MAX 2ME 2MEX 2MGA 2MGAP 2MGAT 2MGAX 2MGE 2MGEP 2MGEX 2MGIE 2MGIEX 2MGO 2MGOP 2MGOT 2MGOX
    2MGU 2MGUO 2MGUOP 2MGUOX 2MGUP 2MGUR 2MGURX 2MGUT 2MGUX 2MI 2MIE 2MIEP 2MIEX 2MIP 2MIT 2MIX 2MO
    2MOP 2MOT 2MOX 2MU 2MUO 2MUOP 2MUOT 2MUOX 2MUP 2MUR 2MURX 2MUT 2MUX 2MY 2MYP 2MYT 2MYX 2NA 2NAP
    2NAX 2NBA 2NBAP 2NBAT 2NBAX 2NBI 2NBIE 2NBIEP 2NBIEX 2NBIP 2NBIT 2NBIX 2NBO 2NBOP 2NBOT 2NBOX
    2NBU 2NBUP 2NBUR 2NBURX 2NBUT 2NBUX 2NBY 2NBYP 2NBYR 2NBYRX 2NBYT 2NBYX 2NDA 2NDAP 2NDAT 2NDAX
    2NDE 2NDEP 2NDEX 2NDI 2NDIE 2NDIEX 2NDIP 2NDIT 2NDIX 2NDO 2NDOP 2NDOT 2NDOX 2NDU 2NDUP 2NDUR
    2NDURX 2NDUT 2NDUX 2NE 2NEP 2NEX 2NGA 2NGAP 2NGAT 2NGAX 2NGE 2NGEP 2NGEX 2NGIE 2NGIEP 2NGIEX
    2NGO 2NGOP 2NGOT 2NGOX 2NGUO 2NGUOT 2NGUOX 2NI 2NIE 2NIEP 2NIEX 2NIP 2NIT 2NIX 2NJI 2NJIE 2NJIEP
    2NJIET 2NJIEX 2NJIP 2NJIT 2NJIX 2NJO 2NJOP 2NJOT 2NJOX 2NJU 2NJUO 2NJUOX 2NJUP 2NJUR 2NJURX
    2NJUX 2NJY 2NJYP 2NJYR 2NJYRX 2NJYT 2NJYX 2NO 2NOP 2NOT 2NOX 2NRA 2NRAP 2NRAT 2NRAX 2NRE 2NREP
    2NRET 2NREX 2NRO 2NROP 2NROX 2NRU 2NRUP 2NRUR 2NRURX 2NRUT 2NRUX 2NRY 2NRYP 2NRYR 2NRYRX 2NRYT
    2NRYX 2NU 2NUO 2NUOP 2NUOX 2NUP 2NUR 2NURX 2NUT 2NUX 2NYI 2NYIE 2NYIEP 2NYIET 2NYIEX 2NYIP 2NYIT
    2NYIX 2NYO 2NYOP 2NYOT 2NYOX 2NYU 2NYUO 2NYUOP 2NYUOX 2NYUP 2NYUT 2NYUX 2NZA 2NZAP 2NZAT 2NZAX
    2NZE 2NZEX 2NZI 2NZIE 2NZIEP 2NZIEX 2NZIP 2NZIT 2NZIX 2NZOP 2NZOX 2NZU 2NZUO 2NZUOX 2NZUP 2NZUR
    2NZURX 2NZUX 2NZY 2NZYP 2NZYR 2NZYRX 2NZYT 2NZYX 2O 2OP 2OT 2OX 2PA 2PAP 2PAT 2PAX 2PI 2PIE
    2PIEP 2PIEX 2PIP 2PIT 2PIX 2PO 2POP 2POT 2POX 2PU 2PUO 2PUOP 2PUOX 2PUP 2PUR 2PURX 2PUT 2PUX 2PY
    2PYP 2PYR 2PYRX 2PYT 2PYX 2QI 2QIE 2QIEP 2QIET 2QIEX 2QIP 2QIT 2QIX 2QO 2QOP 2QOT 2QOX 2QU 2QUO
    2QUOP 2QUOT 2QUOX 2QUP 2QUR 2QURX 2QUT 2QUX 2QY 2QYP 2QYR 2QYRX 2QYT 2QYX 2RA 2RAP 2RAT 2RAX 2RE
    2REP 2REX 2RO 2ROP 2ROT 2ROX 2RRA 2RRAX 2RRE 2RREP 2RRET 2RREX 2RRO 2RROP 2RROT 2RROX 2RRU 2RRUO
    2RRUOX 2RRUP 2RRUR 2RRURX 2RRUT 2RRUX 2RRY 2RRYP 2RRYR 2RRYRX 2RRYT 2RRYX 2RU 2RUO 2RUOP 2RUOX
    2RUP 2RUR 2RURX 2RUT 2RUX 2RY 2RYP 2RYR 2RYRX 2RYT 2RYX 2SA 2SAP 2SAT 2SAX 2SE 2SEP 2SEX 2SHA
    2SHAP 2SHAT 2SHAX 2SHE 2SHEP 2SHET 2SHEX 2SHO 2SHOP 2SHOT 2SHOX 2SHU 2SHUO 2SHUOP 2SHUOX 2SHUP
    2SHUR 2SHURX 2SHUT 2SHUX 2SHY 2SHYP 2SHYR 2SHYRX 2SHYT 2SHYX 2SI 2SIE 2SIEP 2SIEX 2SIP 2SIT 2SIX
    2SO 2SOP 2SOT 2SOX 2SSA 2SSAP 2SSAT 2SSAX 2SSE 2SSEP 2SSEX 2SSI 2SSIE 2SSIEP 2SSIEX 2SSIP 2SSIT
    2SSIX 2SSO 2SSOP 2SSOT 2SSOX 2SSU 2SSUP 2SSUT 2SSUX 2SSY 2SSYP 2SSYR 2SSYRX 2SSYT 2SSYX 2SU 2SUO
    2SUOP 2SUOX 2SUP 2SUR 2SURX 2SUT 2SUX 2SY 2SYP 2SYR 2SYRX 2SYT 2SYX 2TA 2TAP 2TAT 2TAX 2TE 2TEP
    2TEX 2TI 2TIE 2TIEP 2TIEX 2TIP 2TIT 2TIX 2TO 2TOP 2TOT 2TOX 2TU 2TUO 2TUOP 2TUOT 2TUOX 2TUP 2TUR
    2TURX 2TUT 2TUX 2UO 2UOP 2UOX 2VA 2VAP 2VAT 2VAX 2VEP 2VEX 2VI 2VIE 2VIEP 2VIET 2VIEX 2VIP 2VIT
    2VIX 2VO 2VOP 2VOT 2VOX 2VU 2VUP 2VUR 2VURX 2VUT 2VUX 2VY 2VYP 2VYR 2VYRX 2VYT 2VYX 2WA 2WAP
    2WAT 2WAX 2WE 2WEP 2WEX 2WO 2WOP 2WOX 2WU 2WUO 2WUOP 2WUOX 2XI 2XIE 2XIEP 2XIET 2XIEX 2XIP 2XIT
    2XIX 2XO 2XOP 2XOT 2XOX 2XUO 2XUOX 2XY 2XYP 2XYR 2XYRX 2XYT 2XYX 2YI 2YIE 2YIEP 2YIET 2YIEX 2YIP
    2YIT 2YIX 2YO 2YOP 2YOT 2YOX 2YU 2YUO 2YUOP 2YUOT 2YUOX 2YUP 2YUR 2YURX 2YUT 2YUX 2YY 2YYP 2YYR
    2YYRX 2YYT 2YYX 2ZA 2ZAP 2ZAT 2ZAX 2ZE 2ZEP 2ZEX 2ZHA 2ZHAP 2ZHAT 2ZHAX 2ZHE 2ZHEP 2ZHET 2ZHEX
    2ZHO 2ZHOP 2ZHOT 2ZHOX 2ZHU 2ZHUO 2ZHUOP 2ZHUOX 2ZHUP 2ZHUR 2ZHURX 2ZHUT 2ZHUX 2ZHY 2ZHYP 2ZHYR
    2ZHYRX 2ZHYT 2ZHYX 2ZI 2ZIE 2ZIEP 2ZIEX 2ZIP 2ZIT 2ZIX 2ZO 2ZOP 2ZOT 2ZOX 2ZU 2ZUO 2ZUOP 2ZUOX
    2ZUP 2ZUR 2ZURX 2ZUT 2ZUX 2ZY 2ZYP 2ZYR 2ZYRX 2ZYT 2ZYX 2ZZA 2ZZAP 2ZZAT 2ZZAX 2ZZE 2ZZEP 2ZZEX
    2ZZI 2ZZIE 2ZZIEP 2ZZIET 2ZZIEX 2ZZIP 2ZZIT 2ZZIX 2ZZO 2ZZOP 2ZZOX 2ZZU 2ZZUP 2ZZUR 2ZZURX 2ZZUX
    2ZZY 2ZZYP 2ZZYR 2ZZYRX 2ZZYT 2ZZYX 0YIN_YANG 0YO-YO
    "),
    ('Z', "
    0Z_NOTATION_BAG_MEMBERSHIP 2DOMAIN_ANTIRESTRICTION 2LEFT_BINDING_BRACKET 3IMAGE_BRACKET
    2RANGE_ANTIRESTRICTION 2RELATIONAL_COMPOSITION 2RIGHT_BINDING_BRACKET 3IMAGE_BRACKET
    2SCHEMA_COMPOSITION 3PIPING 3PROJECTION 2SPOT 2TYPE_COLON
    0ZANABAZAR_SQUARE_CLOSING_DOUBLE-LINED_HEAD_MARK 3HEAD_MARK 2CLUSTER-FINAL_LETTER_LA 4RA 4VA 4YA
    2CLUSTER-INITIAL_LETTER_RA 2FINAL_CONSONANT_MARK 2INITIAL_DOUBLE-LINED_HEAD_MARK 3HEAD_MARK
    2LETTER_-A 3A 3BA 3BHA 3CA 3CHA 3DA 3DDA 3DDHA 3DHA 3DZA 3DZHA 3GA 3GHA 3HA 3JA 3KA 3KHA 3KSSA
    3LA 3MA 3NA 3NGA 3NNA 3NYA 3PA 3PHA 3RA 3SA 3SHA 3SSA 3TA 3THA 3TSA 3TSHA 3TTA 3TTHA 3VA 3YA 3ZA
    3ZHA 2MARK_DOUBLE_SHAD 3LONG_TSHEG 3SHAD 3TSHEG 2SIGN_ANUSVARA 3CANDRA_WITH_ORNAMENT
    3CANDRABINDU 4WITH_ORNAMENT 3VIRAMA 3VISARGA 2SUBJOINER 2VOWEL_LENGTH_MARK 3SIGN_AI 4AU 4E 4I 4O
    4OE 4REVERSED_I 4U 4UE 0ZEBRA_FACE 0ZERO_WIDTH_JOINER 2NO-BREAK_SPACE 2NON-JOINER 2SPACE 0ZEUS
    0ZIPPER-MOUTH_FACE 0ZNAMENNY_COMBINING_ATTACHING_VERTICAL_OMET 2LOWER_TONAL_RANGE_INDICATOR
    2MARK_BORZAYA 3CHASHKA 4POLNAYA 3CURVED_OMET 3DEMESTVENNY_ZADERZHKA 3DVOETOCHIE
    3GORAZDO_NIZKO_ON_LEFT 6RIGHT 5S_KRYZHEM_ON_LEFT 8RIGHT 4VYSOKO 3KACHKA 3KRYZH 4ON_LEFT 3KUPNAYA
    3LOMKA 3MALO_POVYSHE_ON_LEFT 6RIGHT 5S_KHOKHLOM_ON_LEFT 8RIGHT 6KRYZHEM 5STRANNO 3NIZKO_ON_LEFT
    5RIGHT 4S_KRYZHEM_ON_LEFT 7RIGHT 3OBLACHKO 3ON 3OTSECHKA 3PODCHASHIE 4WITH_VERTICAL_STROKE
    3PODVERTKA 3POVYSHE_ON_LEFT 5RIGHT 4S_KHOKHLOM_ON_LEFT 7RIGHT 5KRYZHEM 4STRANNO 3RAVNO 3RAZSEKA
    3SKOBA 3SOROCHYA_NOZHKA 3SREDNE_ON_LEFT 5RIGHT 3STRANNO_MALO_POVYSHE 3TIKHAYA 3TOCHKA
    3TSATA_ON_LEFT 5RIGHT 4S_KRYZHEM 3UDARKA 3VYSOKO_ON_LEFT 5RIGHT 4S_KHOKHLOM_ON_LEFT 7RIGHT
    5KRYZHEM 3ZADERZHKA 3ZELO 3ZEVOK 2TONAL_RANGE_MARK_MRACHNO 5SVETLO 5TRESVETLO 1NEUME_CHASHKA
    2CHELYUSTKA 2DEMESTVENNY_KLYUCH 2DERBITSA 2DOUBLE_ZAPYATAYA 2DUDA 2DVA_V_CHELNU 2FITA
    2GOLUBCHIK_BORZY 3MRACHNY 3SVETLY 3TIKHY 3TRESVETLY 2KHAMILO 2KLYUCH 2KOBYLA 2KRYUK 3TIKHY
    2KRYZH 2KUFISMA 2MECHIK 3KLYUCHENEPOSTOYANNY 3KLYUCHEPOVODNY 3KLYUCHEVOY 3POVODNY 2NEMKA 2OBLAKO
    2OSOKA 3KLYUCHEVAYA_NEPOSTOYANNAYA 4SVETLAYA 3KRYUKOVAYA_SVETLAYA 3SVETLAYA 3TRESVETLAYA 2PALKA
    2PARAKLIT 2PAUK 2PEREVODKA 3NEPOSTOYANNAYA 2PODCHASHIE 2POLKULIZMY 2REVERSED_CHELYUSTKA 2ROG
    2SKAMEYTSA_DVOECHELNAYA_KLYUCHEVAYA 4NEPOSTOYANNAYA 4PROSTAYA 4SVETLAYA 3KLYUCHENEPOSTOYANNAYA
    3KLYUCHEVAYA_SVETLAYA 4TIKHAYA 3MRACHNAYA 3SVETLAYA 3TIKHAYA 3TRESVETLAYA 2SLOZHITIE 3S_KRYZHEM
    4ZAPYATOY 3ZAKRYTOE 2STATYA 3NEPOSTOYANNAYA 3S_DVUMYA_ZAPYATYMI 4KRYZHEM 5I_ZAPYATOY 4ROGOM
    4ZAPYATOY 5I_KRYZHEM 6PODCHASHIEM 3ZAKRYTAYA 4S_ZAPYATOY 2STOPITSA 3S_OCHKOM
    3WITH_SOROCHYA_NOZHKA 2STRELA_DVOECHELNAYA 4KLYUCHEVAYA 3DVOECHELNOKRYZHEVAYA
    3DVOECHELNOPOVODNAYA 4KLYUCHEVAYA 3GROMNAYA 4WITH_SINGLE_ZAPYATAYA 3GROMOKRYZHEVAYA 4POVODNAYA
    3GROMOPOVODNAYA 4WITH_DOUBLE_ZAPYATAYA 5SINGLE_ZAPYATAYA 3KLYUCHENEPOSTOYANNAYA
    3KLYUCHEPOVODNAYA 3KRYUKOVAYA 4GROMNAYA 5WITH_SINGLE_ZAPYATAYA 4GROMOKRYZHEVAYA 5POVODNAYA
    4GROMOPOVODNAYA 5WITH_DOUBLE_ZAPYATAYA 6SINGLE_ZAPYATAYA 4POVODNAYA 4TRYASKA 3KRYZHEVAYA
    3MRACHNOTIKHAYA 3NEPOSTOYANNAYA 3POLUPOVODNAYA 3POVODNAYA 3PROSTAYA 3TIKHAYA_PUTNAYA
    3TRYASOGLASNAYA 3TRYASOPOVODNAYA 3TRYASOSTRELNAYA 2VRAKHIYA_KLYUCHEVAYA_MRACHNAYA 4PROSTAYA
    4SVETLAYA 4TRESVETLAYA 3MRACHNAYA 3PROSTAYA 3SVETLAYA 3TRESVETLAYA 2ZANOZHEK 2ZAPYATAYA 2ZMEYTSA
    1PRIZNAK_MODIFIER_DIRECTION_FLIP 3KRYZH 3LEVEL-2 3LEVEL-3 3ROG 0ZOMBIE 0ZWJ 0ZWNBSP 0ZWNJ 0ZWSP
    ") ]

end LineShell.Text
