namespace Boilerplate.Text.Emoji

/-- Pictures with all their names, which are written in small letters. -/
abbrev Pictures := List (String × List String)

def Pictures.ofName? (pictures : Pictures) (name : String) : Option String :=
  (pictures.find? fun (_, names) ↦ names.contains name).map (·.1)

def symbols : Pictures :=
  [
    ("#\u20e3", ["keycap_number_sign"]), ("#\ufe0f\u20e3", ["keycap_#"]),
    ("*\u20e3", ["keycap_asterisk"]), ("*\ufe0f\u20e3", ["keycap_*"]),
    ("0\u20e3", ["keycap_digit_zero"]), ("0\ufe0f\u20e3", ["keycap_0", "zero"]),
    ("1\u20e3", ["keycap_digit_one"]), ("1\ufe0f\u20e3", ["keycap_1", "one"]),
    ("2\u20e3", ["keycap_digit_two"]), ("2\ufe0f\u20e3", ["keycap_2", "two"]),
    ("3\u20e3", ["keycap_digit_three"]), ("3\ufe0f\u20e3", ["keycap_3", "three"]),
    ("4\u20e3", ["keycap_digit_four"]), ("4\ufe0f\u20e3", ["keycap_4", "four"]),
    ("5\u20e3", ["keycap_digit_five"]), ("5\ufe0f\u20e3", ["keycap_5", "five"]),
    ("6\u20e3", ["keycap_digit_six"]), ("6\ufe0f\u20e3", ["keycap_6", "six"]),
    ("7\u20e3", ["keycap_digit_seven"]), ("7\ufe0f\u20e3", ["keycap_7", "seven"]),
    ("8\u20e3", ["keycap_digit_eight"]), ("8\ufe0f\u20e3", ["keycap_8", "eight"]),
    ("9\u20e3", ["keycap_digit_nine"]), ("9\ufe0f\u20e3", ["keycap_9", "nine"]),
    ("©", ["copyright"]), ("®", ["registered"]), ("‼", ["double_exclamation_mark", "bangbang"]),
    ("⁉", ["exclamation_question_mark", "interrobang"]), ("™", ["trade_mark", "tm"]),
    ("ℹ", ["information", "information_source"]), ("↔", ["left-right_arrow", "left_right_arrow"]),
    ("↕", ["up-down_arrow", "arrow_up_down"]), ("↖", ["up-left_arrow", "arrow_upper_left"]),
    ("↗", ["up-right_arrow", "arrow_upper_right"]),
    ("↘", ["down-right_arrow", "arrow_lower_right"]),
    ("↙", ["down-left_arrow", "arrow_lower_left"]),
    ("↩", ["right_arrow_curving_left", "leftwards_arrow_with_hook"]),
    ("↪", ["left_arrow_curving_right", "arrow_right_hook"]), ("⌚", ["watch"]),
    ("⌛", ["hourglass_done", "hourglass"]), ("⌨", ["keyboard"]), ("⎈", ["helm_symbol"]),
    ("⏏", ["eject_button", "eject_symbol"]), ("⏩", ["fast-forward_button", "fast_forward"]),
    ("⏪", ["fast_reverse_button", "rewind"]), ("⏫", ["fast_up_button", "arrow_double_up"]),
    ("⏬", ["fast_down_button", "arrow_double_down"]),
    ("⏭", ["next_track_button", "black_right__pointing_double_triangle_with_vertical_bar"]),
    ("⏮", ["last_track_button", "black_left__pointing_double_triangle_with_vertical_bar"]),
    ("⏯", ["play_or_pause_button", "black_right__pointing_triangle_with_double_vertical_bar"]),
    ("⏰", ["alarm_clock"]), ("⏱", ["stopwatch"]), ("⏲", ["timer_clock"]),
    ("⏳", ["hourglass_not_done", "hourglass_flowing_sand"]),
    ("⏸", ["pause_button", "double_vertical_bar"]), ("⏹", ["stop_button", "black_square_for_stop"]),
    ("⏺", ["record_button", "black_circle_for_record"]), ("Ⓜ", ["circled_m", "m"]),
    ("▪", ["black_small_square"]), ("▫", ["white_small_square"]),
    ("▶", ["play_button", "arrow_forward"]), ("◀", ["reverse_button", "arrow_backward"]),
    ("◻", ["white_medium_square"]), ("◼", ["black_medium_square"]),
    ("◽", ["white_medium-small_square", "white_medium_small_square"]),
    ("◾", ["black_medium-small_square", "black_medium_small_square"]), ("☀", ["sun", "sunny"]),
    ("☁", ["cloud"]), ("☂", ["umbrella"]), ("☃", ["snowman"]), ("☄", ["comet"]),
    ("☎", ["telephone", "phone"]), ("☑", ["ballot_box_with_check"]),
    ("☔", ["umbrella_with_rain_drops"]), ("☕", ["hot_beverage", "coffee"]), ("☘", ["shamrock"]),
    ("☝", ["point_up"]), ("☠", ["skull_and_crossbones"]),
    ("☢", ["radioactive", "radioactive_sign"]), ("☣", ["biohazard", "biohazard_sign"]),
    ("☦", ["orthodox_cross"]), ("☪", ["star_and_crescent"]), ("☮", ["peace_symbol"]),
    ("☯", ["yin_yang"]), ("☸", ["wheel_of_dharma"]),
    ("☹", ["frowning_face", "white_frowning_face"]), ("☺", ["smiling_face", "relaxed"]),
    ("♀", ["female_sign"]), ("♂", ["male_sign"]), ("♈", ["aries"]), ("♉", ["taurus"]),
    ("♊", ["gemini"]), ("♋", ["cancer"]), ("♌", ["leo"]), ("♍", ["virgo"]), ("♎", ["libra"]),
    ("♏", ["scorpio", "scorpius"]), ("♐", ["sagittarius"]), ("♑", ["capricorn"]),
    ("♒", ["aquarius"]), ("♓", ["pisces"]), ("♟", ["chess_pawn"]), ("♠", ["spade_suit", "spades"]),
    ("♣", ["club_suit", "clubs"]), ("♥", ["heart_suit", "hearts"]),
    ("♦", ["diamond_suit", "diamonds"]), ("♨", ["hot_springs", "hotsprings"]),
    ("♻", ["recycling_symbol", "recycle"]), ("♾", ["infinity"]),
    ("♿", ["wheelchair_symbol", "wheelchair"]), ("⚒", ["hammer_and_pick"]), ("⚓", ["anchor"]),
    ("⚔", ["crossed_swords"]), ("⚕", ["medical_symbol"]), ("⚖", ["balance_scale", "scales"]),
    ("⚗", ["alembic"]), ("⚙", ["gear"]), ("⚛", ["atom_symbol"]),
    ("⚜", ["fleur-de-lis", "fleur__de__lis"]), ("⚠", ["warning"]), ("⚡", ["high_voltage", "zap"]),
    ("⚪", ["white_circle"]), ("⚫", ["black_circle"]), ("⚰", ["coffin"]), ("⚱", ["funeral_urn"]),
    ("⚽", ["soccer_ball", "soccer"]), ("⚾", ["baseball"]), ("⛄", ["snowman_without_snow"]),
    ("⛅", ["sun_behind_cloud", "partly_sunny"]),
    ("⛈", ["cloud_with_lightning_and_rain", "thunder_cloud_and_rain"]), ("⛎", ["ophiuchus"]),
    ("⛏", ["pick"]), ("⛑", ["rescue_worker’s_helmet", "helmet_with_white_cross"]),
    ("⛓", ["chains"]), ("⛔", ["no_entry"]), ("⛩", ["shinto_shrine"]), ("⛪", ["church"]),
    ("⛰", ["mountain"]), ("⛱", ["umbrella_on_ground"]), ("⛲", ["fountain"]),
    ("⛳", ["flag_in_hole", "golf"]), ("⛴", ["ferry"]), ("⛵", ["sailboat", "boat"]),
    ("⛷", ["skier"]), ("⛸", ["ice_skate"]), ("⛹", ["person_with_ball"]), ("⛺", ["tent"]),
    ("⛽", ["fuel_pump", "fuelpump"]), ("✂", ["scissors"]),
    ("✅", ["white_heavy_check_mark", "white_check_mark"]), ("✈", ["airplane"]),
    ("✉", ["envelope", "email"]), ("✊", ["fist"]), ("✋", ["hand"]), ("✌", ["v"]),
    ("✏", ["pencil2"]), ("✒", ["black_nib"]), ("✔", ["heavy_check_mark"]),
    ("✖", ["heavy_multiplication_x"]), ("✝", ["latin_cross"]), ("✡", ["star_of_david"]),
    ("✨", ["sparkles"]), ("✳", ["eight-spoked_asterisk", "eight_spoked_asterisk"]),
    ("✴", ["eight-pointed_star", "eight_pointed_black_star"]), ("❄", ["snowflake"]),
    ("❇", ["sparkle"]), ("❌", ["cross_mark", "x"]),
    ("❎", ["cross_mark_button", "negative_squared_cross_mark"]),
    ("❓", ["question_mark", "question"]), ("❔", ["white_question_mark", "grey_question"]),
    ("❕", ["white_exclamation_mark", "grey_exclamation"]),
    ("❗", ["exclamation_mark", "exclamation", "heavy_exclamation_mark"]),
    ("❣", ["heavy_heart_exclamation", "heavy_heart_exclamation_mark_ornament"]),
    ("❤", ["red_heart", "heart"]), ("➕", ["heavy_plus_sign"]), ("➖", ["heavy_minus_sign"]),
    ("➗", ["heavy_division_sign"]), ("➡", ["right_arrow", "arrow_right"]), ("➰", ["curly_loop"]),
    ("➿", ["double_curly_loop", "loop"]), ("⤴", ["right_arrow_curving_up", "arrow_heading_up"]),
    ("⤵", ["right_arrow_curving_down", "arrow_heading_down"]), ("⬅", ["left_arrow", "arrow_left"]),
    ("⬆", ["up_arrow", "arrow_up"]), ("⬇", ["down_arrow", "arrow_down"]),
    ("⬛", ["black_large_square"]), ("⬜", ["white_large_square"]),
    ("⭐", ["white_medium_star", "star"]), ("⭕", ["heavy_large_circle", "o"]), ("〰", ["wavy_dash"]),
    ("〽", ["part_alternation_mark"]), ("㊗", ["japanese_congratulations_button", "congratulations"]),
    ("㊙", ["japanese_secret_button", "secret"]), ("🀄", ["mahjong_red_dragon", "mahjong"]),
    ("🃏", ["joker", "black_joker"]), ("🅰", ["a_button_(blood_type)", "a"]),
    ("🅱", ["b_button_(blood_type)", "b"]), ("🅾", ["o_button_(blood_type)", "o2"]),
    ("🅿", ["p_button", "parking"]), ("🆎", ["ab_button_(blood_type)", "ab"]),
    ("🆑", ["cl_button", "cl"]), ("🆒", ["cool_button", "cool"]), ("🆓", ["free_button", "free"]),
    ("🆔", ["id_button", "id"]), ("🆕", ["new_button", "new"]), ("🆖", ["ng_button", "ng"]),
    ("🆗", ["ok_button", "ok"]), ("🆘", ["sos_button", "sos"]), ("🆙", ["up!_button", "up"]),
    ("🆚", ["vs_button", "vs"]),
    ("🇦", ["regional_indicator_symbol_letter_a", "regional_indicator_a"]),
    ("🇧", ["regional_indicator_symbol_letter_b", "regional_indicator_b"]),
    ("🇨", ["regional_indicator_symbol_letter_c", "regional_indicator_c"]),
    ("🇩", ["regional_indicator_symbol_letter_d", "regional_indicator_d"]),
    ("🇪", ["regional_indicator_symbol_letter_e", "regional_indicator_e"]),
    ("🇫", ["regional_indicator_symbol_letter_f", "regional_indicator_f"]),
    ("🇬", ["regional_indicator_symbol_letter_g", "regional_indicator_g"]),
    ("🇭", ["regional_indicator_symbol_letter_h", "regional_indicator_h"]),
    ("🇮", ["regional_indicator_symbol_letter_i", "regional_indicator_i"]),
    ("🇯", ["regional_indicator_symbol_letter_j", "regional_indicator_j"]),
    ("🇰", ["regional_indicator_symbol_letter_k", "regional_indicator_k"]),
    ("🇱", ["regional_indicator_symbol_letter_l", "regional_indicator_l"]),
    ("🇲", ["regional_indicator_symbol_letter_m", "regional_indicator_m"]),
    ("🇳", ["regional_indicator_symbol_letter_n", "regional_indicator_n"]),
    ("🇴", ["regional_indicator_symbol_letter_o", "regional_indicator_o"]),
    ("🇵", ["regional_indicator_symbol_letter_p", "regional_indicator_p"]),
    ("🇶", ["regional_indicator_symbol_letter_q", "regional_indicator_q"]),
    ("🇷", ["regional_indicator_symbol_letter_r", "regional_indicator_r"]),
    ("🇸", ["regional_indicator_symbol_letter_s", "regional_indicator_s"]),
    ("🇹", ["regional_indicator_symbol_letter_t", "regional_indicator_t"]),
    ("🇺", ["regional_indicator_symbol_letter_u", "regional_indicator_u"]),
    ("🇻", ["regional_indicator_symbol_letter_v", "regional_indicator_v"]),
    ("🇼", ["regional_indicator_symbol_letter_w", "regional_indicator_w"]),
    ("🇽", ["regional_indicator_symbol_letter_x", "regional_indicator_x"]),
    ("🇾", ["regional_indicator_symbol_letter_y", "regional_indicator_y"]),
    ("🇿", ["regional_indicator_symbol_letter_z", "regional_indicator_z"]),
    ("🈁", ["japanese_here_button", "koko"]), ("🈂", ["japanese_service_charge_button", "sa"]),
    ("🈚", ["japanese_free_of_charge_button", "u7121"]),
    ("🈯", ["japanese_reserved_button", "u6307"]), ("🈲", ["japanese_prohibited_button", "u7981"]),
    ("🈳", ["japanese_vacancy_button", "u7a7a"]), ("🈴", ["japanese_passing_grade_button", "u5408"]),
    ("🈵", ["japanese_no_vacancy_button", "u6e80"]),
    ("🈶", ["japanese_not_free_of_charge_button", "u6709"]),
    ("🈷", ["japanese_monthly_amount_button", "u6708"]),
    ("🈸", ["japanese_application_button", "u7533"]), ("🈹", ["japanese_discount_button", "u5272"]),
    ("🈺", ["japanese_open_for_business_button", "u55b6"]),
    ("🉐", ["japanese_bargain_button", "ideograph_advantage"]),
    ("🉑", ["japanese_acceptable_button", "accept"])
  ]

def nature : Pictures :=
  [
    ("🌀", ["cyclone"]), ("🌁", ["foggy"]), ("🌂", ["closed_umbrella"]), ("🌃", ["night_with_stars"]),
    ("🌄", ["sunrise_over_mountains"]), ("🌅", ["sunrise"]),
    ("🌆", ["cityscape_at_dusk", "city_sunset"]), ("🌇", ["sunset", "city_sunrise"]),
    ("🌈", ["rainbow"]), ("🌉", ["bridge_at_night"]), ("🌊", ["water_wave", "ocean"]),
    ("🌋", ["volcano"]), ("🌌", ["milky_way"]),
    ("🌍", ["globe_showing_europe-africa", "earth_africa"]),
    ("🌎", ["globe_showing_americas", "earth_americas"]),
    ("🌏", ["globe_showing_asia-australia", "earth_asia"]), ("🌐", ["globe_with_meridians"]),
    ("🌑", ["new_moon"]), ("🌒", ["waxing_crescent_moon"]), ("🌓", ["first_quarter_moon"]),
    ("🌔", ["waxing_gibbous_moon", "moon"]), ("🌕", ["full_moon"]), ("🌖", ["waning_gibbous_moon"]),
    ("🌗", ["last_quarter_moon"]), ("🌘", ["waning_crescent_moon"]), ("🌙", ["crescent_moon"]),
    ("🌚", ["new_moon_face", "new_moon_with_face"]),
    ("🌛", ["first_quarter_moon_face", "first_quarter_moon_with_face"]),
    ("🌜", ["last_quarter_moon_face", "last_quarter_moon_with_face"]),
    ("🌝", ["full_moon_face", "full_moon_with_face"]), ("🌞", ["sun_with_face"]),
    ("🌟", ["glowing_star", "star2"]), ("🌠", ["shooting_star", "stars"]), ("🌡", ["thermometer"]),
    ("🌤", ["sun_behind_small_cloud", "white_sun_with_small_cloud"]),
    ("🌥", ["sun_behind_large_cloud", "white_sun_behind_cloud"]),
    ("🌦", ["sun_behind_rain_cloud", "white_sun_behind_cloud_with_rain"]),
    ("🌧", ["cloud_with_rain"]), ("🌨", ["cloud_with_snow"]), ("🌩", ["cloud_with_lightning"]),
    ("🌪", ["tornado", "cloud_with_tornado"]), ("🌫", ["fog"]),
    ("🌬", ["wind_face", "wind_blowing_face"]), ("🌭", ["hot_dog"]), ("🌮", ["taco"]),
    ("🌯", ["burrito"]), ("🌰", ["chestnut"]), ("🌱", ["seedling"]), ("🌲", ["evergreen_tree"]),
    ("🌳", ["deciduous_tree"]), ("🌴", ["palm_tree"]), ("🌵", ["cactus"]), ("🌶", ["hot_pepper"]),
    ("🌷", ["tulip"]), ("🌸", ["cherry_blossom"]), ("🌹", ["rose"]), ("🌺", ["hibiscus"]),
    ("🌻", ["sunflower"]), ("🌼", ["blossom"]), ("🌽", ["ear_of_corn", "corn"]),
    ("🌾", ["sheaf_of_rice", "ear_of_rice"]), ("🌿", ["herb"]), ("🍀", ["four_leaf_clover"]),
    ("🍁", ["maple_leaf"]), ("🍂", ["fallen_leaf"]), ("🍃", ["leaf_fluttering_in_wind", "leaves"]),
    ("🍄", ["mushroom"]), ("🍅", ["tomato"]), ("🍆", ["eggplant"]), ("🍇", ["grapes"]),
    ("🍈", ["melon"]), ("🍉", ["watermelon"]), ("🍊", ["tangerine"]), ("🍋", ["lemon"]),
    ("🍌", ["banana"]), ("🍍", ["pineapple"]), ("🍎", ["red_apple", "apple"]), ("🍏", ["green_apple"]),
    ("🍐", ["pear"]), ("🍑", ["peach"]), ("🍒", ["cherries"]), ("🍓", ["strawberry"]),
    ("🍔", ["hamburger"]), ("🍕", ["pizza"]), ("🍖", ["meat_on_bone"]), ("🍗", ["poultry_leg"]),
    ("🍘", ["rice_cracker"]), ("🍙", ["rice_ball"]), ("🍚", ["cooked_rice", "rice"]),
    ("🍛", ["curry_rice", "curry"]), ("🍜", ["steaming_bowl", "ramen"]), ("🍝", ["spaghetti"]),
    ("🍞", ["bread"]), ("🍟", ["french_fries", "fries"]),
    ("🍠", ["roasted_sweet_potato", "sweet_potato"]), ("🍡", ["dango"]), ("🍢", ["oden"]),
    ("🍣", ["sushi"]), ("🍤", ["fried_shrimp"]), ("🍥", ["fish_cake_with_swirl", "fish_cake"]),
    ("🍦", ["soft_ice_cream", "icecream"]), ("🍧", ["shaved_ice"]), ("🍨", ["ice_cream"]),
    ("🍩", ["doughnut"]), ("🍪", ["cookie"]), ("🍫", ["chocolate_bar"]), ("🍬", ["candy"]),
    ("🍭", ["lollipop"]), ("🍮", ["custard"]), ("🍯", ["honey_pot"]), ("🍰", ["shortcake", "cake"]),
    ("🍱", ["bento_box", "bento"]), ("🍲", ["pot_of_food", "stew"]), ("🍳", ["cooking", "egg"]),
    ("🍴", ["fork_and_knife"]), ("🍵", ["teacup_without_handle", "tea"]), ("🍶", ["sake"]),
    ("🍷", ["wine_glass"]), ("🍸", ["cocktail_glass", "cocktail"]), ("🍹", ["tropical_drink"]),
    ("🍺", ["beer_mug", "beer"]), ("🍻", ["clinking_beer_mugs", "beers"]), ("🍼", ["baby_bottle"]),
    ("🍽", ["fork_and_knife_with_plate"]), ("🍾", ["bottle_with_popping_cork"]), ("🍿", ["popcorn"]),
    ("🎀", ["ribbon"]), ("🎁", ["wrapped_gift", "gift"]), ("🎂", ["birthday_cake", "birthday"]),
    ("🎃", ["jack-o-lantern", "jack_o_lantern"]), ("🎄", ["christmas_tree"]), ("🎅", ["santa"]),
    ("🎆", ["fireworks"]), ("🎇", ["sparkler"]), ("🎈", ["balloon"]), ("🎉", ["party_popper", "tada"]),
    ("🎊", ["confetti_ball"]), ("🎋", ["tanabata_tree"]), ("🎌", ["crossed_flags"]),
    ("🎍", ["pine_decoration", "bamboo"]), ("🎎", ["japanese_dolls", "dolls"]),
    ("🎏", ["carp_streamer", "flags"]), ("🎐", ["wind_chime"]),
    ("🎑", ["moon_viewing_ceremony", "rice_scene"]), ("🎒", ["school_backpack", "school_satchel"]),
    ("🎓", ["graduation_cap", "mortar_board"]), ("🎖", ["military_medal"]),
    ("🎗", ["reminder_ribbon"]), ("🎙", ["studio_microphone"]), ("🎚", ["level_slider"]),
    ("🎛", ["control_knobs"]), ("🎞", ["film_frames"]), ("🎟", ["admission_tickets"]),
    ("🎠", ["carousel_horse"]), ("🎡", ["ferris_wheel"]), ("🎢", ["roller_coaster"]),
    ("🎣", ["fishing_pole", "fishing_pole_and_fish"]), ("🎤", ["microphone"]),
    ("🎥", ["movie_camera"]), ("🎦", ["cinema"]), ("🎧", ["headphone", "headphones"]),
    ("🎨", ["artist_palette", "art"]), ("🎩", ["top_hat", "tophat"]), ("🎪", ["circus_tent"]),
    ("🎫", ["ticket"]), ("🎬", ["clapper_board", "clapper"]), ("🎭", ["performing_arts"]),
    ("🎮", ["video_game"]), ("🎯", ["direct_hit", "dart"]), ("🎰", ["slot_machine"]),
    ("🎱", ["pool_8_ball", "8ball"]), ("🎲", ["game_die"]), ("🎳", ["bowling"]),
    ("🎴", ["flower_playing_cards"]), ("🎵", ["musical_note"]), ("🎶", ["musical_notes", "notes"]),
    ("🎷", ["saxophone"]), ("🎸", ["guitar"]), ("🎹", ["musical_keyboard"]), ("🎺", ["trumpet"]),
    ("🎻", ["violin"]), ("🎼", ["musical_score"]),
    ("🎽", ["running_shirt", "running_shirt_with_sash"]), ("🎾", ["tennis"]), ("🎿", ["skis", "ski"]),
    ("🏀", ["basketball"]), ("🏁", ["chequered_flag", "checkered_flag"]),
    ("🏃", ["runner", "running"]), ("🏄", ["surfer"]), ("🏅", ["sports_medal"]), ("🏆", ["trophy"]),
    ("🏈", ["american_football", "football"]), ("🏉", ["rugby_football"]), ("🏊", ["swimmer"]),
    ("🏋", ["weight_lifter"]), ("🏌", ["golfer"]), ("🏍", ["motorcycle", "racing_motorcycle"]),
    ("🏎", ["racing_car"]), ("🏏", ["cricket_game", "cricket_bat_and_ball"]), ("🏐", ["volleyball"]),
    ("🏑", ["field_hockey", "field_hockey_stick_and_ball"]),
    ("🏒", ["ice_hockey", "ice_hockey_stick_and_puck"]),
    ("🏓", ["ping_pong", "table_tennis_paddle_and_ball"]),
    ("🏔", ["snow-capped_mountain", "snow_capped_mountain"]), ("🏕", ["camping"]),
    ("🏖", ["beach_with_umbrella"]), ("🏗", ["building_construction"]),
    ("🏘", ["houses", "house_buildings"]), ("🏙", ["cityscape"]),
    ("🏚", ["derelict_house", "derelict_house_building"]), ("🏛", ["classical_building"]),
    ("🏜", ["desert"]), ("🏝", ["desert_island"]), ("🏞", ["national_park"]), ("🏟", ["stadium"]),
    ("🏠", ["house"]), ("🏡", ["house_with_garden"]), ("🏢", ["office_building", "office"]),
    ("🏣", ["japanese_post_office", "post_office"]), ("🏤", ["european_post_office"]),
    ("🏥", ["hospital"]), ("🏦", ["bank"]), ("🏧", ["atm_sign", "atm"]), ("🏨", ["hotel"]),
    ("🏩", ["love_hotel"]), ("🏪", ["convenience_store"]), ("🏫", ["school"]),
    ("🏬", ["department_store"]), ("🏭", ["factory"]),
    ("🏮", ["red_paper_lantern", "izakaya_lantern", "lantern"]), ("🏯", ["japanese_castle"]),
    ("🏰", ["castle", "european_castle"]), ("🏳", ["white_flag", "waving_white_flag"]),
    ("🏳\ufe0f\u200d🌈", ["rainbow_flag"]), ("🏴", ["black_flag", "waving_black_flag"]),
    ("🏴\u200d☠\ufe0f", ["pirate_flag"]), ("🏵", ["rosette"]), ("🏷", ["label"]),
    ("🏸", ["badminton", "badminton_racquet_and_shuttlecock"]), ("🏹", ["bow_and_arrow"]),
    ("🏺", ["amphora"]), ("🏻", ["light_skin_tone", "emoji_modifier_fitzpatrick_type__1__2"]),
    ("🏼", ["medium_light_skin_tone", "emoji_modifier_fitzpatrick_type__3"]),
    ("🏽", ["medium_skin_tone", "emoji_modifier_fitzpatrick_type__4"]),
    ("🏾", ["medium_dark_skin_tone", "emoji_modifier_fitzpatrick_type__5"]),
    ("🏿", ["dark_skin_tone", "emoji_modifier_fitzpatrick_type__6"])
  ]

def things : Pictures :=
  [
    ("🐀", ["rat"]), ("🐁", ["mouse2"]), ("🐂", ["ox"]), ("🐃", ["water_buffalo"]), ("🐄", ["cow2"]),
    ("🐅", ["tiger2"]), ("🐆", ["leopard"]), ("🐇", ["rabbit2"]), ("🐈", ["cat2"]), ("🐉", ["dragon"]),
    ("🐊", ["crocodile"]), ("🐋", ["whale2"]), ("🐌", ["snail"]), ("🐍", ["snake"]),
    ("🐎", ["racehorse"]), ("🐏", ["ram"]), ("🐐", ["goat"]), ("🐑", ["ewe", "sheep"]),
    ("🐒", ["monkey"]), ("🐓", ["rooster"]), ("🐔", ["chicken"]), ("🐕", ["dog2"]),
    ("🐕\u200d🦺", ["service_dog"]), ("🐖", ["pig2"]), ("🐗", ["boar"]), ("🐘", ["elephant"]),
    ("🐙", ["octopus"]), ("🐚", ["spiral_shell", "shell"]), ("🐛", ["bug"]), ("🐜", ["ant"]),
    ("🐝", ["honeybee", "bee"]), ("🐞", ["lady_beetle", "beetle"]), ("🐟", ["fish"]),
    ("🐠", ["tropical_fish"]), ("🐡", ["blowfish"]), ("🐢", ["turtle"]), ("🐣", ["hatching_chick"]),
    ("🐤", ["baby_chick"]), ("🐥", ["front-facing_baby_chick", "hatched_chick"]), ("🐦", ["bird"]),
    ("🐧", ["penguin"]), ("🐨", ["koala"]), ("🐩", ["poodle"]), ("🐪", ["dromedary_camel"]),
    ("🐫", ["camel", "two-hump_camel"]), ("🐬", ["dolphin", "flipper"]),
    ("🐭", ["mouse", "mouse_face"]), ("🐮", ["cow", "cow_face"]), ("🐯", ["tiger", "tiger_face"]),
    ("🐰", ["rabbit", "rabbit_face"]), ("🐱", ["cat", "cat_face"]), ("🐲", ["dragon_face"]),
    ("🐳", ["spouting_whale", "whale"]), ("🐴", ["horse", "horse_face"]), ("🐵", ["monkey_face"]),
    ("🐶", ["dog", "dog_face"]), ("🐷", ["pig", "pig_face"]), ("🐸", ["frog_face", "frog"]),
    ("🐹", ["hamster_face", "hamster"]), ("🐺", ["wolf_face", "wolf"]), ("🐻", ["bear_face", "bear"]),
    ("🐼", ["panda_face"]), ("🐽", ["pig_nose"]), ("🐾", ["paw_prints", "feet"]), ("🐿", ["chipmunk"]),
    ("👀", ["eyes"]), ("👁", ["eye"]), ("👁\ufe0f\u200d🗨\ufe0f", ["eye_in_speech_bubble"]),
    ("👄", ["mouth", "lips"]), ("👅", ["tongue"]), ("👆", ["point_up_2"]), ("👇", ["point_down"]),
    ("👈", ["point_left"]), ("👉", ["point_right"]), ("👊", ["facepunch", "punch"]), ("👋", ["wave"]),
    ("👍", ["+1", "thumbsup"]), ("👎", ["__1", "-1", "thumbsdown"]), ("👏", ["clap"]),
    ("👑", ["crown"]), ("👒", ["woman’s_hat", "womans_hat"]), ("👓", ["glasses", "eyeglasses"]),
    ("👔", ["necktie"]), ("👕", ["t-shirt", "shirt", "tshirt"]), ("👖", ["jeans"]), ("👗", ["dress"]),
    ("👘", ["kimono"]), ("👙", ["bikini"]), ("👚", ["woman’s_clothes", "womans_clothes"]),
    ("👛", ["purse"]), ("👜", ["handbag"]), ("👝", ["clutch_bag", "pouch"]),
    ("👞", ["man’s_shoe", "mans_shoe", "shoe"]), ("👟", ["running_shoe", "athletic_shoe"]),
    ("👠", ["high-heeled_shoe", "high_heel"]), ("👡", ["woman’s_sandal", "sandal"]),
    ("👢", ["woman’s_boot", "boot"]), ("👣", ["footprints"]), ("👤", ["bust_in_silhouette"]),
    ("👥", ["busts_in_silhouette"]), ("👨\u200d❤\ufe0f\u200d👨", ["couple_with_heart_man_man"]),
    ("👨\u200d❤\ufe0f\u200d💋\u200d👨", ["kiss_man_man"]), ("👨\u200d👦", ["family_man_boy"]),
    ("👨\u200d👦\u200d👦", ["family_man_boy_boy"]), ("👨\u200d👧", ["family_man_girl"]),
    ("👨\u200d👧\u200d👦", ["family_man_girl_boy"]), ("👨\u200d👧\u200d👧", ["family_man_girl_girl"]),
    ("👨\u200d👨\u200d👦", ["family_man_man_boy"]),
    ("👨\u200d👨\u200d👦\u200d👦", ["family_man_man_boy_boy"]),
    ("👨\u200d👨\u200d👧", ["family_man_man_girl"]),
    ("👨\u200d👨\u200d👧\u200d👦", ["family_man_man_girl_boy"]),
    ("👨\u200d👨\u200d👧\u200d👧", ["family_man_man_girl_girl"]),
    ("👨\u200d👩\u200d👦", ["family_man_woman_boy"]),
    ("👨\u200d👩\u200d👦\u200d👦", ["family_man_woman_boy_boy"]),
    ("👨\u200d👩\u200d👧", ["family_man_woman_girl"]),
    ("👨\u200d👩\u200d👧\u200d👦", ["family_man_woman_girl_boy"]),
    ("👨\u200d👩\u200d👧\u200d👧", ["family_man_woman_girl_girl"]),
    ("👨\u200d🦯", ["man_with_probing_cane"]), ("👨\u200d🦰", ["red-haired_man"]),
    ("👨\u200d🦱", ["curly-haired_man"]), ("👨\u200d🦲", ["bald_man"]),
    ("👨\u200d🦳", ["white-haired_man"]), ("👨\u200d🦼", ["man_in_motorized_wheelchair"]),
    ("👨\u200d🦽", ["man_in_manual_wheelchair"]),
    ("👩\u200d❤\ufe0f\u200d👨", ["couple_with_heart_woman_man"]),
    ("👩\u200d❤\ufe0f\u200d👩", ["couple_with_heart_woman_woman"]),
    ("👩\u200d❤\ufe0f\u200d💋\u200d👨", ["kiss_woman_man"]),
    ("👩\u200d❤\ufe0f\u200d💋\u200d👩", ["kiss_woman_woman"]), ("👩\u200d👦", ["family_woman_boy"]),
    ("👩\u200d👦\u200d👦", ["family_woman_boy_boy"]), ("👩\u200d👧", ["family_woman_girl"]),
    ("👩\u200d👧\u200d👦", ["family_woman_girl_boy"]), ("👩\u200d👧\u200d👧", ["family_woman_girl_girl"]),
    ("👩\u200d👩\u200d👦", ["family_woman_woman_boy"]),
    ("👩\u200d👩\u200d👦\u200d👦", ["family_woman_woman_boy_boy"]),
    ("👩\u200d👩\u200d👧", ["family_woman_woman_girl"]),
    ("👩\u200d👩\u200d👧\u200d👦", ["family_woman_woman_girl_boy"]),
    ("👩\u200d👩\u200d👧\u200d👧", ["family_woman_woman_girl_girl"]),
    ("👩\u200d🦯", ["woman_with_probing_cane"]), ("👩\u200d🦰", ["red-haired_woman"]),
    ("👩\u200d🦱", ["curly-haired_woman"]), ("👩\u200d🦲", ["bald_woman"]),
    ("👩\u200d🦳", ["white-haired_woman"]), ("👩\u200d🦼", ["woman_in_motorized_wheelchair"]),
    ("👩\u200d🦽", ["woman_in_manual_wheelchair"]), ("👪", ["family"]),
    ("👫", ["man_and_woman_holding_hands", "couple"]), ("👬", ["two_men_holding_hands"]),
    ("👭", ["two_women_holding_hands"]), ("👮", ["cop"]),
    ("👯", ["people_with_bunny_ears", "dancers"]), ("👯\u200d♀\ufe0f", ["women_with_bunny_ears"]),
    ("👯\u200d♂\ufe0f", ["men_with_bunny_ears"]), ("👱", ["person_with_blond_hair"]),
    ("👲", ["man_with_gua_pi_mao"]), ("👳", ["man_with_turban"]), ("👴", ["older_man"]),
    ("👵", ["older_woman"]), ("👹", ["ogre", "japanese_ogre"]), ("👺", ["goblin", "japanese_goblin"]),
    ("👻", ["ghost"]), ("👼", ["angel"]), ("👽", ["alien"]), ("👾", ["alien_monster", "space_invader"]),
    ("👿", ["angry_face_with_horns", "imp"]), ("💀", ["skull"]), ("💁", ["information_desk_person"]),
    ("💂", ["guardsman"]), ("💃", ["dancer"]), ("💄", ["lipstick"]), ("💅", ["nail_care"]),
    ("💆", ["massage"]), ("💇", ["haircut"]), ("💈", ["barber_pole", "barber"]), ("💉", ["syringe"]),
    ("💊", ["pill"]), ("💋", ["kiss", "kiss_mark"]), ("💌", ["love_letter"]), ("💍", ["ring"]),
    ("💎", ["gem_stone", "gem"]), ("💏", ["couplekiss"]), ("💐", ["bouquet"]),
    ("💑", ["couple_with_heart"]), ("💒", ["wedding"]), ("💓", ["beating_heart", "heartbeat"]),
    ("💔", ["broken_heart"]), ("💕", ["two_hearts"]), ("💖", ["sparkling_heart"]),
    ("💗", ["growing_heart", "heartpulse"]), ("💘", ["heart_with_arrow", "cupid"]),
    ("💙", ["blue_heart"]), ("💚", ["green_heart"]), ("💛", ["yellow_heart"]), ("💜", ["purple_heart"]),
    ("💝", ["heart_with_ribbon", "gift_heart"]), ("💞", ["revolving_hearts"]),
    ("💟", ["heart_decoration"]), ("💠", ["diamond_with_a_dot", "diamond_shape_with_a_dot_inside"]),
    ("💡", ["light_bulb", "bulb"]), ("💢", ["anger_symbol", "anger"]), ("💣", ["bomb"]),
    ("💤", ["zzz"]), ("💥", ["collision", "boom"]), ("💦", ["sweat_droplets", "sweat_drops"]),
    ("💧", ["droplet"]), ("💨", ["dashing_away", "dash"]),
    ("💩", ["pile_of_poo", "hankey", "poop", "shit"]), ("💪", ["muscle"]), ("💫", ["dizzy"]),
    ("💬", ["speech_balloon"]), ("💭", ["thought_balloon"]), ("💮", ["white_flower"]),
    ("💯", ["hundred_points", "100"]), ("💰", ["money_bag", "moneybag"]),
    ("💱", ["currency_exchange"]), ("💲", ["heavy_dollar_sign"]), ("💳", ["credit_card"]),
    ("💴", ["yen_banknote", "yen"]), ("💵", ["dollar_banknote", "dollar"]),
    ("💶", ["euro_banknote", "euro"]), ("💷", ["pound_banknote", "pound"]),
    ("💸", ["money_with_wings"]), ("💹", ["chart_increasing_with_yen", "chart"]), ("💺", ["seat"]),
    ("💻", ["laptop_computer", "computer"]), ("💼", ["briefcase"]),
    ("💽", ["computer_disk", "minidisc"]), ("💾", ["floppy_disk"]), ("💿", ["optical_disk", "cd"]),
    ("📀", ["dvd"]), ("📁", ["file_folder"]), ("📂", ["open_file_folder"]), ("📃", ["page_with_curl"]),
    ("📄", ["page_facing_up"]), ("📅", ["date"]), ("📆", ["calendar", "tear-off_calendar"]),
    ("📇", ["card_index"]), ("📈", ["chart_increasing", "chart_with_upwards_trend"]),
    ("📉", ["chart_decreasing", "chart_with_downwards_trend"]), ("📊", ["bar_chart"]),
    ("📋", ["clipboard"]), ("📌", ["pushpin"]), ("📍", ["round_pushpin"]), ("📎", ["paperclip"]),
    ("📏", ["straight_ruler"]), ("📐", ["triangular_ruler"]), ("📑", ["bookmark_tabs"]),
    ("📒", ["ledger"]), ("📓", ["notebook"]), ("📔", ["notebook_with_decorative_cover"]),
    ("📕", ["closed_book"]), ("📖", ["open_book", "book"]), ("📗", ["green_book"]),
    ("📘", ["blue_book"]), ("📙", ["orange_book"]), ("📚", ["books"]), ("📛", ["name_badge"]),
    ("📜", ["scroll"]), ("📝", ["memo", "pencil"]), ("📞", ["telephone_receiver"]), ("📟", ["pager"]),
    ("📠", ["fax_machine", "fax"]), ("📡", ["satellite", "satellite_antenna"]),
    ("📢", ["loudspeaker"]), ("📣", ["megaphone", "mega"]), ("📤", ["outbox_tray"]),
    ("📥", ["inbox_tray"]), ("📦", ["package"]), ("📧", ["e-mail", "e__mail"]),
    ("📨", ["incoming_envelope"]), ("📩", ["envelope_with_arrow"]),
    ("📪", ["closed_mailbox_with_lowered_flag", "mailbox_closed"]),
    ("📫", ["closed_mailbox_with_raised_flag", "mailbox"]),
    ("📬", ["open_mailbox_with_raised_flag", "mailbox_with_mail"]),
    ("📭", ["open_mailbox_with_lowered_flag", "mailbox_with_no_mail"]), ("📮", ["postbox"]),
    ("📯", ["postal_horn"]), ("📰", ["newspaper"]), ("📱", ["mobile_phone", "iphone"]),
    ("📲", ["mobile_phone_with_arrow", "calling"]), ("📳", ["vibration_mode"]),
    ("📴", ["mobile_phone_off"]), ("📵", ["no_mobile_phones"]),
    ("📶", ["antenna_bars", "signal_strength"]), ("📷", ["camera"]), ("📸", ["camera_with_flash"]),
    ("📹", ["video_camera"]), ("📺", ["television", "tv"]), ("📻", ["radio"]),
    ("📼", ["videocassette", "vhs"]), ("📽", ["film_projector"]), ("📿", ["prayer_beads"])
  ]

def signs : Pictures :=
  [
    ("🔀", ["shuffle_tracks_button", "twisted_rightwards_arrows"]),
    ("🔁", ["repeat_button", "repeat"]), ("🔂", ["repeat_single_button", "repeat_one"]),
    ("🔃", ["clockwise_vertical_arrows", "arrows_clockwise"]),
    ("🔄", ["counterclockwise_arrows_button", "arrows_counterclockwise"]),
    ("🔅", ["dim_button", "low_brightness"]), ("🔆", ["bright_button", "high_brightness"]),
    ("🔇", ["muted_speaker", "mute"]), ("🔈", ["speaker_low_volume", "speaker"]),
    ("🔉", ["speaker_medium_volume", "sound"]), ("🔊", ["speaker_high_volume", "loud_sound"]),
    ("🔋", ["battery"]), ("🔌", ["electric_plug"]), ("🔍", ["magnifying_glass_tilted_left", "mag"]),
    ("🔎", ["magnifying_glass_tilted_right", "mag_right"]),
    ("🔏", ["locked_with_pen", "lock_with_ink_pen"]),
    ("🔐", ["locked_with_key", "closed_lock_with_key"]), ("🔑", ["key"]), ("🔒", ["locked", "lock"]),
    ("🔓", ["unlocked", "unlock"]), ("🔔", ["bell"]), ("🔕", ["bell_with_slash", "no_bell"]),
    ("🔖", ["bookmark"]), ("🔗", ["link"]), ("🔘", ["radio_button"]), ("🔙", ["back_arrow", "back"]),
    ("🔚", ["end_arrow", "end"]), ("🔛", ["on!_arrow", "on"]), ("🔜", ["soon_arrow", "soon"]),
    ("🔝", ["top_arrow", "top"]), ("🔞", ["no_one_under_eighteen", "underage"]),
    ("🔟", ["keycap_10", "ten"]), ("🔠", ["input_latin_uppercase", "capital_abcd"]),
    ("🔡", ["input_latin_lowercase", "abcd"]), ("🔢", ["input_numbers", "1234"]),
    ("🔣", ["input_symbols", "symbols"]), ("🔤", ["input_latin_letters", "abc"]), ("🔥", ["fire"]),
    ("🔦", ["flashlight"]), ("🔧", ["wrench"]), ("🔨", ["hammer"]), ("🔩", ["nut_and_bolt"]),
    ("🔪", ["kitchen_knife", "hocho", "knife"]), ("🔫", ["pistol", "gun"]), ("🔬", ["microscope"]),
    ("🔭", ["telescope"]), ("🔮", ["crystal_ball"]),
    ("🔯", ["dotted_six-pointed_star", "six_pointed_star"]),
    ("🔰", ["japanese_symbol_for_beginner", "beginner"]), ("🔱", ["trident_emblem", "trident"]),
    ("🔲", ["black_square_button"]), ("🔳", ["white_square_button"]), ("🔴", ["red_circle"]),
    ("🔵", ["blue_circle", "large_blue_circle"]), ("🔶", ["large_orange_diamond"]),
    ("🔷", ["large_blue_diamond"]), ("🔸", ["small_orange_diamond"]), ("🔹", ["small_blue_diamond"]),
    ("🔺", ["red_triangle_pointed_up", "small_red_triangle"]),
    ("🔻", ["red_triangle_pointed_down", "small_red_triangle_down"]),
    ("🔼", ["upwards_button", "arrow_up_small"]), ("🔽", ["downwards_button", "arrow_down_small"]),
    ("🕉", ["om", "om_symbol"]), ("🕊", ["dove", "dove_of_peace"]), ("🕋", ["kaaba"]),
    ("🕌", ["mosque"]), ("🕍", ["synagogue"]), ("🕎", ["menorah", "menorah_with_nine_branches"]),
    ("🕐", ["one_o’clock", "clock1"]), ("🕑", ["two_o’clock", "clock2"]),
    ("🕒", ["three_o’clock", "clock3"]), ("🕓", ["four_o’clock", "clock4"]),
    ("🕔", ["five_o’clock", "clock5"]), ("🕕", ["six_o’clock", "clock6"]),
    ("🕖", ["seven_o’clock", "clock7"]), ("🕗", ["eight_o’clock", "clock8"]),
    ("🕘", ["nine_o’clock", "clock9"]), ("🕙", ["ten_o’clock", "clock10"]),
    ("🕚", ["eleven_o’clock", "clock11"]), ("🕛", ["twelve_o’clock", "clock12"]),
    ("🕜", ["one-thirty", "clock130"]), ("🕝", ["two-thirty", "clock230"]),
    ("🕞", ["three-thirty", "clock330"]), ("🕟", ["four-thirty", "clock430"]),
    ("🕠", ["five-thirty", "clock530"]), ("🕡", ["six-thirty", "clock630"]),
    ("🕢", ["seven-thirty", "clock730"]), ("🕣", ["eight-thirty", "clock830"]),
    ("🕤", ["nine-thirty", "clock930"]), ("🕥", ["ten-thirty", "clock1030"]),
    ("🕦", ["eleven-thirty", "clock1130"]), ("🕧", ["twelve-thirty", "clock1230"]), ("🕯", ["candle"]),
    ("🕰", ["mantelpiece_clock"]), ("🕳", ["hole"]), ("🕴", ["man_in_business_suit_levitating"]),
    ("🕵", ["sleuth_or_spy"]), ("🕶", ["dark_sunglasses"]), ("🕷", ["spider"]), ("🕸", ["spider_web"]),
    ("🕹", ["joystick"]), ("🖇", ["linked_paperclips"]), ("🖊", ["pen", "lower_left_ballpoint_pen"]),
    ("🖋", ["fountain_pen", "lower_left_fountain_pen"]),
    ("🖌", ["paintbrush", "lower_left_paintbrush"]), ("🖍", ["crayon", "lower_left_crayon"]),
    ("🖐", ["raised_hand_with_fingers_splayed"]),
    ("🖕", ["reversed_hand_with_middle_finger_extended"]),
    ("🖖", ["raised_hand_with_part_between_middle_and_ring_fingers"]), ("🖤", ["black_heart"]),
    ("🖥", ["desktop_computer"]), ("🖨", ["printer"]),
    ("🖱", ["computer_mouse", "three_button_mouse"]), ("🖲", ["trackball"]),
    ("🖼", ["framed_picture", "frame_with_picture"]), ("🗂", ["card_index_dividers"]),
    ("🗃", ["card_file_box"]), ("🗄", ["file_cabinet"]), ("🗑", ["wastebasket"]),
    ("🗒", ["spiral_notepad", "spiral_note_pad"]), ("🗓", ["spiral_calendar", "spiral_calendar_pad"]),
    ("🗜", ["clamp", "compression"]), ("🗝", ["old_key"]),
    ("🗞", ["rolled-up_newspaper", "rolled__up_newspaper"]), ("🗡", ["dagger", "dagger_knife"]),
    ("🗣", ["speaking_head", "speaking_head_in_silhouette"]), ("🗨", ["left_speech_bubble"]),
    ("🗯", ["right_anger_bubble"]), ("🗳", ["ballot_box_with_ballot"]), ("🗺", ["world_map"]),
    ("🗻", ["mount_fuji"]), ("🗼", ["tokyo_tower"]), ("🗽", ["statue_of_liberty"]),
    ("🗾", ["japan", "map_of_japan"]), ("🗿", ["moai", "moyai"])
  ]

def faces : Pictures :=
  [
    ("😀", ["grinning_face", "grinning"]), ("😁", ["beaming_face_with_smiling_eyes", "grin"]),
    ("😂", ["face_with_tears_of_joy", "joy"]), ("😃", ["grinning_face_with_big_eyes", "smiley"]),
    ("😄", ["grinning_face_with_smiling_eyes", "smile"]),
    ("😅", ["grinning_face_with_sweat", "sweat_smile"]),
    ("😆", ["grinning_squinting_face", "laughing", "satisfied"]),
    ("😇", ["smiling_face_with_halo", "innocent"]),
    ("😈", ["smiling_face_with_horns", "smiling_imp"]), ("😉", ["winking_face", "wink"]),
    ("😊", ["smiling_face_with_smiling_eyes", "blush"]), ("😋", ["face_savoring_food", "yum"]),
    ("😌", ["relieved_face", "relieved"]), ("😍", ["smiling_face_with_heart-eyes", "heart_eyes"]),
    ("😎", ["smiling_face_with_sunglasses", "sunglasses"]), ("😏", ["smirking_face", "smirk"]),
    ("😐", ["neutral_face"]), ("😑", ["expressionless_face", "expressionless"]),
    ("😒", ["unamused_face", "unamused"]), ("😓", ["downcast_face_with_sweat", "sweat"]),
    ("😔", ["pensive_face", "pensive"]), ("😕", ["confused_face", "confused"]),
    ("😖", ["confounded_face", "confounded"]), ("😗", ["kissing_face", "kissing"]),
    ("😘", ["face_blowing_a_kiss", "kissing_heart"]),
    ("😙", ["kissing_face_with_smiling_eyes", "kissing_smiling_eyes"]),
    ("😚", ["kissing_face_with_closed_eyes", "kissing_closed_eyes"]),
    ("😛", ["face_with_tongue", "stuck_out_tongue"]),
    ("😜", ["winking_face_with_tongue", "stuck_out_tongue_winking_eye"]),
    ("😝", ["squinting_face_with_tongue", "stuck_out_tongue_closed_eyes"]),
    ("😞", ["disappointed_face", "disappointed"]), ("😟", ["worried_face", "worried"]),
    ("😠", ["angry_face", "angry"]), ("😡", ["pouting_face", "rage"]), ("😢", ["crying_face", "cry"]),
    ("😣", ["persevering_face", "persevere"]), ("😤", ["face_with_steam_from_nose", "triumph"]),
    ("😥", ["sad_but_relieved_face", "disappointed_relieved"]),
    ("😦", ["frowning_face_with_open_mouth", "frowning"]), ("😧", ["anguished_face", "anguished"]),
    ("😨", ["fearful_face", "fearful"]), ("😩", ["weary_face", "weary"]),
    ("😪", ["sleepy_face", "sleepy"]), ("😫", ["tired_face"]), ("😬", ["grimacing_face", "grimacing"]),
    ("😭", ["loudly_crying_face", "sob"]), ("😮", ["face_with_open_mouth", "open_mouth"]),
    ("😯", ["hushed_face", "hushed"]), ("😰", ["anxious_face_with_sweat", "cold_sweat"]),
    ("😱", ["face_screaming_in_fear", "scream"]), ("😲", ["astonished_face", "astonished"]),
    ("😳", ["flushed_face", "flushed"]), ("😴", ["sleeping_face", "sleeping"]), ("😵", ["dizzy_face"]),
    ("😶", ["face_without_mouth", "no_mouth"]), ("😷", ["face_with_medical_mask", "mask"]),
    ("😸", ["grinning_cat_face_with_smiling_eyes", "smile_cat"]),
    ("😹", ["cat_face_with_tears_of_joy", "joy_cat"]), ("😺", ["grinning_cat_face", "smiley_cat"]),
    ("😻", ["smiling_cat_face_with_heart-eyes", "heart_eyes_cat"]),
    ("😼", ["cat_face_with_wry_smile", "smirk_cat"]), ("😽", ["kissing_cat_face", "kissing_cat"]),
    ("😾", ["pouting_cat_face", "pouting_cat"]), ("😿", ["crying_cat_face"]),
    ("🙀", ["weary_cat_face", "scream_cat"]), ("🙁", ["slightly_frowning_face"]),
    ("🙂", ["slightly_smiling_face"]), ("🙃", ["upside-down_face", "upside__down_face"]),
    ("🙄", ["face_with_rolling_eyes"]), ("🙅", ["no_good"]), ("🙆", ["ok_woman"]), ("🙇", ["bow"]),
    ("🙈", ["see-no-evil_monkey", "see_no_evil"]), ("🙉", ["hear-no-evil_monkey", "hear_no_evil"]),
    ("🙊", ["speak-no-evil_monkey", "speak_no_evil"]), ("🙋", ["raising_hand"]),
    ("🙌", ["raised_hands"]), ("🙎", ["person_with_pouting_face"]), ("🙏", ["pray"])
  ]

def transport : Pictures :=
  [
    ("🚀", ["rocket"]), ("🚁", ["helicopter"]), ("🚂", ["locomotive", "steam_locomotive"]),
    ("🚃", ["railway_car"]), ("🚄", ["high-speed_train", "bullettrain_side"]),
    ("🚅", ["bullet_train", "bullettrain_front"]), ("🚆", ["train2"]), ("🚇", ["metro"]),
    ("🚈", ["light_rail"]), ("🚉", ["station"]), ("🚊", ["tram"]), ("🚋", ["train", "tram_car"]),
    ("🚌", ["bus"]), ("🚍", ["oncoming_bus"]), ("🚎", ["trolleybus"]), ("🚏", ["bus_stop", "busstop"]),
    ("🚐", ["minibus"]), ("🚑", ["ambulance"]), ("🚒", ["fire_engine"]), ("🚓", ["police_car"]),
    ("🚔", ["oncoming_police_car"]), ("🚕", ["taxi"]), ("🚖", ["oncoming_taxi"]),
    ("🚗", ["automobile", "car", "red_car"]), ("🚘", ["oncoming_automobile"]),
    ("🚙", ["sport_utility_vehicle", "blue_car"]), ("🚚", ["delivery_truck", "truck"]),
    ("🚛", ["articulated_lorry"]), ("🚜", ["tractor"]), ("🚝", ["monorail"]),
    ("🚞", ["mountain_railway"]), ("🚟", ["suspension_railway"]), ("🚠", ["mountain_cableway"]),
    ("🚡", ["aerial_tramway"]), ("🚢", ["ship"]), ("🚣", ["rowboat"]), ("🚤", ["speedboat"]),
    ("🚥", ["horizontal_traffic_light", "traffic_light"]), ("🚦", ["vertical_traffic_light"]),
    ("🚧", ["construction"]), ("🚨", ["police_car_light", "rotating_light"]),
    ("🚩", ["triangular_flag", "triangular_flag_on_post"]), ("🚪", ["door"]),
    ("🚫", ["prohibited", "no_entry_sign"]), ("🚬", ["cigarette", "smoking"]), ("🚭", ["no_smoking"]),
    ("🚮", ["litter_in_bin_sign", "put_litter_in_its_place"]),
    ("🚯", ["no_littering", "do_not_litter"]), ("🚰", ["potable_water"]),
    ("🚱", ["non-potable_water", "non__potable_water"]), ("🚲", ["bicycle", "bike"]),
    ("🚳", ["no_bicycles"]), ("🚴", ["bicyclist"]), ("🚵", ["mountain_bicyclist"]), ("🚶", ["walking"]),
    ("🚷", ["no_pedestrians"]), ("🚸", ["children_crossing"]), ("🚹", ["men’s_room", "mens"]),
    ("🚺", ["women’s_room", "womens"]), ("🚻", ["restroom"]), ("🚼", ["baby_symbol"]),
    ("🚽", ["toilet"]), ("🚾", ["water_closet", "wc"]), ("🚿", ["shower"]), ("🛀", ["bath"]),
    ("🛁", ["bathtub"]), ("🛂", ["passport_control"]), ("🛃", ["customs"]), ("🛄", ["baggage_claim"]),
    ("🛅", ["left_luggage"]), ("🛋", ["couch_and_lamp"]), ("🛌", ["sleeping_accommodation"]),
    ("🛍", ["shopping_bags"]), ("🛎", ["bellhop_bell"]), ("🛏", ["bed"]), ("🛐", ["place_of_worship"]),
    ("🛑", ["stop_sign"]), ("🛒", ["shopping_cart"]), ("🛕", ["hindu_temple"]),
    ("🛠", ["hammer_and_wrench"]), ("🛡", ["shield"]), ("🛢", ["oil_drum"]), ("🛣", ["motorway"]),
    ("🛤", ["railway_track"]), ("🛥", ["motor_boat"]), ("🛩", ["small_airplane"]),
    ("🛫", ["airplane_departure"]), ("🛬", ["airplane_arrival", "airplane_arriving"]),
    ("🛳", ["passenger_ship"]), ("🛴", ["kick_scooter"]), ("🛵", ["motor_scooter"]), ("🛶", ["canoe"]),
    ("🛷", ["sled"]), ("🛸", ["flying_saucer"]), ("🛹", ["skateboard"]), ("🛺", ["auto_rickshaw"]),
    ("🟠", ["orange_circle"]), ("🟡", ["yellow_circle"]), ("🟢", ["green_circle"]),
    ("🟣", ["purple_circle"]), ("🟤", ["brown_circle"]), ("🟥", ["red_square"]),
    ("🟦", ["blue_square"]), ("🟧", ["orange_square"]), ("🟨", ["yellow_square"]),
    ("🟩", ["green_square"]), ("🟪", ["purple_square"]), ("🟫", ["brown_square"])
  ]

def supplement : Pictures :=
  [
    ("🤍", ["white_heart"]), ("🤎", ["brown_heart"]), ("🤏", ["pinching_hand"]),
    ("🤐", ["zipper-mouth_face", "zipper__mouth_face"]),
    ("🤑", ["money-mouth_face", "money__mouth_face"]), ("🤒", ["face_with_thermometer"]),
    ("🤓", ["nerd_face"]), ("🤔", ["thinking_face"]),
    ("🤕", ["face_with_head-bandage", "face_with_head__bandage"]), ("🤖", ["robot_face", "robot"]),
    ("🤗", ["hugging_face"]), ("🤝", ["handshake"]), ("🤠", ["cowboy_hat_face"]),
    ("🤡", ["clown_face"]), ("🤢", ["nauseated_face"]), ("🤣", ["rolling_on_the_floor_laughing"]),
    ("🤤", ["drooling_face"]), ("🤥", ["lying_face"]), ("🤧", ["sneezing_face"]),
    ("🤨", ["face_with_raised_eyebrow"]), ("🤩", ["star-struck"]), ("🤪", ["zany_face"]),
    ("🤫", ["shushing_face"]), ("🤬", ["face_with_symbols_on_mouth"]),
    ("🤭", ["face_with_hand_over_mouth"]), ("🤮", ["face_vomiting"]), ("🤯", ["exploding_head"]),
    ("🤺", ["person_fencing"]), ("🤼", ["people_wrestling"]), ("🤼\u200d♀\ufe0f", ["women_wrestling"]),
    ("🤼\u200d♂\ufe0f", ["men_wrestling"]), ("🤿", ["diving_mask"]), ("🥀", ["wilted_flower"]),
    ("🥁", ["drum"]), ("🥂", ["clinking_glasses"]), ("🥃", ["tumbler_glass"]), ("🥄", ["spoon"]),
    ("🥅", ["goal_net"]), ("🥇", ["1st_place_medal"]), ("🥈", ["2nd_place_medal"]),
    ("🥉", ["3rd_place_medal"]), ("🥊", ["boxing_glove"]), ("🥋", ["martial_arts_uniform"]),
    ("🥌", ["curling_stone"]), ("🥍", ["lacrosse"]), ("🥎", ["softball"]), ("🥏", ["flying_disc"]),
    ("🥐", ["croissant"]), ("🥑", ["avocado"]), ("🥒", ["cucumber"]), ("🥓", ["bacon"]),
    ("🥔", ["potato"]), ("🥕", ["carrot"]), ("🥖", ["baguette_bread"]), ("🥗", ["green_salad"]),
    ("🥘", ["shallow_pan_of_food"]), ("🥙", ["stuffed_flatbread"]), ("🥛", ["glass_of_milk"]),
    ("🥜", ["peanuts"]), ("🥝", ["kiwi_fruit"]), ("🥞", ["pancakes"]), ("🥟", ["dumpling"]),
    ("🥠", ["fortune_cookie"]), ("🥡", ["takeout_box"]), ("🥢", ["chopsticks"]),
    ("🥣", ["bowl_with_spoon"]), ("🥤", ["cup_with_straw"]), ("🥥", ["coconut"]), ("🥦", ["broccoli"]),
    ("🥧", ["pie"]), ("🥨", ["pretzel"]), ("🥩", ["cut_of_meat"]), ("🥪", ["sandwich"]),
    ("🥫", ["canned_food"]), ("🥬", ["leafy_green"]), ("🥭", ["mango"]), ("🥮", ["moon_cake"]),
    ("🥯", ["bagel"]), ("🥰", ["smiling_face_with_3_hearts"]), ("🥱", ["yawning_face"]),
    ("🥳", ["partying_face"]), ("🥴", ["woozy_face"]), ("🥵", ["hot_face"]), ("🥶", ["cold_face"]),
    ("🥺", ["pleading_face"]), ("🥻", ["sari"]), ("🥼", ["lab_coat"]), ("🥽", ["goggles"]),
    ("🥾", ["hiking_boot"]), ("🥿", ["flat_shoe"]), ("🦀", ["crab"]), ("🦁", ["lion_face"]),
    ("🦂", ["scorpion"]), ("🦃", ["turkey"]), ("🦄", ["unicorn_face"]), ("🦅", ["eagle"]),
    ("🦆", ["duck"]), ("🦇", ["bat"]), ("🦈", ["shark"]), ("🦉", ["owl"]), ("🦊", ["fox_face"]),
    ("🦋", ["butterfly"]), ("🦌", ["deer"]), ("🦍", ["gorilla"]), ("🦎", ["lizard"]),
    ("🦏", ["rhinoceros"]), ("🦐", ["shrimp"]), ("🦑", ["squid"]), ("🦒", ["giraffe"]),
    ("🦓", ["zebra"]), ("🦔", ["hedgehog"]), ("🦕", ["sauropod"]), ("🦖", ["t-rex"]),
    ("🦗", ["cricket"]), ("🦘", ["kangaroo"]), ("🦙", ["llama"]), ("🦚", ["peacock"]),
    ("🦛", ["hippopotamus"]), ("🦜", ["parrot"]), ("🦝", ["raccoon"]), ("🦞", ["lobster"]),
    ("🦟", ["mosquito"]), ("🦠", ["microbe"]), ("🦡", ["badger"]), ("🦢", ["swan"]), ("🦥", ["sloth"]),
    ("🦦", ["otter"]), ("🦧", ["orangutan"]), ("🦨", ["skunk"]), ("🦩", ["flamingo"]),
    ("🦪", ["oyster"]), ("🦮", ["guide_dog"]), ("🦯", ["probing_cane"]), ("🦰", ["red_hair"]),
    ("🦱", ["curly_hair"]), ("🦲", ["bald"]), ("🦳", ["white_hair"]), ("🦴", ["bone"]), ("🦵", ["leg"]),
    ("🦶", ["foot"]), ("🦷", ["tooth"]), ("🦸", ["superhero"]), ("🦹", ["supervillain"]),
    ("🦺", ["safety_vest"]), ("🦻", ["ear_with_hearing_aid"]), ("🦼", ["motorized_wheelchair"]),
    ("🦽", ["manual_wheelchair"]), ("🦾", ["mechanical_arm"]), ("🦿", ["mechanical_leg"]),
    ("🧀", ["cheese_wedge"]), ("🧁", ["cupcake"]), ("🧂", ["salt"]), ("🧃", ["beverage_box"]),
    ("🧄", ["garlic"]), ("🧅", ["onion"]), ("🧆", ["falafel"]), ("🧇", ["waffle"]), ("🧈", ["butter"]),
    ("🧉", ["mate"]), ("🧊", ["ice"]), ("🧍", ["person_standing"]), ("🧎", ["person_kneeling"]),
    ("🧏", ["deaf_person"]), ("🧐", ["face_with_monocle"]),
    ("🧑\u200d🤝\u200d🧑", ["people_holding_hands"]), ("🧞", ["genie"]),
    ("🧞\u200d♀\ufe0f", ["woman_genie"]), ("🧞\u200d♂\ufe0f", ["man_genie"]), ("🧟", ["zombie"]),
    ("🧟\u200d♀\ufe0f", ["woman_zombie"]), ("🧟\u200d♂\ufe0f", ["man_zombie"]), ("🧠", ["brain"]),
    ("🧡", ["orange_heart"]), ("🧢", ["billed_cap"]), ("🧣", ["scarf"]), ("🧤", ["gloves"]),
    ("🧥", ["coat"]), ("🧦", ["socks"]), ("🧧", ["red_envelope"]), ("🧨", ["firecracker"]),
    ("🧩", ["jigsaw"]), ("🧪", ["test_tube"]), ("🧫", ["petri_dish"]), ("🧬", ["dna"]),
    ("🧭", ["compass"]), ("🧮", ["abacus"]), ("🧯", ["fire_extinguisher"]), ("🧰", ["toolbox"]),
    ("🧱", ["brick"]), ("🧲", ["magnet"]), ("🧳", ["luggage"]), ("🧴", ["lotion_bottle"]),
    ("🧵", ["thread"]), ("🧶", ["yarn"]), ("🧷", ["safety_pin"]), ("🧸", ["teddy_bear"]),
    ("🧹", ["broom"]), ("🧺", ["basket"]), ("🧻", ["roll_of_paper"]), ("🧼", ["soap"]),
    ("🧽", ["sponge"]), ("🧾", ["receipt"]), ("🧿", ["nazar_amulet"]), ("🩰", ["ballet_shoes"]),
    ("🩱", ["one-piece_swimsuit"]), ("🩲", ["briefs"]), ("🩳", ["shorts"]), ("🩸", ["drop_of_blood"]),
    ("🩹", ["adhesive_bandage"]), ("🩺", ["stethoscope"]), ("🪀", ["yo-yo"]), ("🪁", ["kite"]),
    ("🪐", ["ringed_planet"]), ("🪑", ["chair"]), ("🪒", ["razor"]), ("🪓", ["axe"]),
    ("🪔", ["diya_lamp"]), ("🪕", ["banjo"])
  ]

def people : Pictures :=
  [
    ("☝", ["index_pointing_up"]), ("⛹", ["person_bouncing_ball"]),
    ("⛹\ufe0f\u200d♀\ufe0f", ["woman_bouncing_ball"]),
    ("⛹\ufe0f\u200d♂\ufe0f", ["man_bouncing_ball"]), ("✊", ["raised_fist"]), ("✋", ["raised_hand"]),
    ("✌", ["victory_hand"]), ("✍", ["writing_hand"]), ("🎅", ["santa_claus"]),
    ("🏂", ["snowboarder"]), ("🏃", ["person_running"]), ("🏃\u200d♀\ufe0f", ["woman_running"]),
    ("🏃\u200d♂\ufe0f", ["man_running"]), ("🏄", ["person_surfing"]),
    ("🏄\u200d♀\ufe0f", ["woman_surfing"]), ("🏄\u200d♂\ufe0f", ["man_surfing"]),
    ("🏇", ["horse_racing"]), ("🏊", ["person_swimming"]), ("🏊\u200d♀\ufe0f", ["woman_swimming"]),
    ("🏊\u200d♂\ufe0f", ["man_swimming"]), ("🏋", ["person_lifting_weights"]),
    ("🏋\ufe0f\u200d♀\ufe0f", ["woman_lifting_weights"]),
    ("🏋\ufe0f\u200d♂\ufe0f", ["man_lifting_weights"]), ("🏌", ["person_golfing"]),
    ("🏌\ufe0f\u200d♀\ufe0f", ["woman_golfing"]), ("🏌\ufe0f\u200d♂\ufe0f", ["man_golfing"]),
    ("👂", ["ear"]), ("👃", ["nose"]), ("👆", ["backhand_index_pointing_up"]),
    ("👇", ["backhand_index_pointing_down"]), ("👈", ["backhand_index_pointing_left"]),
    ("👉", ["backhand_index_pointing_right"]), ("👊", ["oncoming_fist"]), ("👋", ["waving_hand"]),
    ("👌", ["ok_hand"]), ("👍", ["thumbs_up"]), ("👎", ["thumbs_down"]), ("👏", ["clapping_hands"]),
    ("👐", ["open_hands"]), ("👦", ["boy"]), ("👧", ["girl"]), ("👨", ["man"]),
    ("👨\u200d⚕\ufe0f", ["man_health_worker"]), ("👨\u200d⚖\ufe0f", ["man_judge"]),
    ("👨\u200d✈\ufe0f", ["man_pilot"]), ("👨\u200d🌾", ["man_farmer"]), ("👨\u200d🍳", ["man_cook"]),
    ("👨\u200d🎓", ["man_student"]), ("👨\u200d🎤", ["man_singer"]), ("👨\u200d🎨", ["man_artist"]),
    ("👨\u200d🏫", ["man_teacher"]), ("👨\u200d🏭", ["man_factory_worker"]),
    ("👨\u200d💻", ["man_technologist"]), ("👨\u200d💼", ["man_office_worker"]),
    ("👨\u200d🔧", ["man_mechanic"]), ("👨\u200d🔬", ["man_scientist"]),
    ("👨\u200d🚀", ["man_astronaut"]), ("👨\u200d🚒", ["man_firefighter"]), ("👩", ["woman"]),
    ("👩\u200d⚕\ufe0f", ["woman_health_worker"]), ("👩\u200d⚖\ufe0f", ["woman_judge"]),
    ("👩\u200d✈\ufe0f", ["woman_pilot"]), ("👩\u200d🌾", ["woman_farmer"]),
    ("👩\u200d🍳", ["woman_cook"]), ("👩\u200d🎓", ["woman_student"]), ("👩\u200d🎤", ["woman_singer"]),
    ("👩\u200d🎨", ["woman_artist"]), ("👩\u200d🏫", ["woman_teacher"]),
    ("👩\u200d🏭", ["woman_factory_worker"]), ("👩\u200d💻", ["woman_technologist"]),
    ("👩\u200d💼", ["woman_office_worker"]), ("👩\u200d🔧", ["woman_mechanic"]),
    ("👩\u200d🔬", ["woman_scientist"]), ("👩\u200d🚀", ["woman_astronaut"]),
    ("👩\u200d🚒", ["woman_firefighter"]), ("👮", ["police_officer"]),
    ("👮\u200d♀\ufe0f", ["woman_police_officer"]), ("👮\u200d♂\ufe0f", ["man_police_officer"]),
    ("👰", ["bride_with_veil"]), ("👱", ["blond-haired_person"]),
    ("👱\u200d♀\ufe0f", ["blond-haired_woman"]), ("👱\u200d♂\ufe0f", ["blond-haired_man"]),
    ("👲", ["man_with_chinese_cap"]), ("👳", ["person_wearing_turban"]),
    ("👳\u200d♀\ufe0f", ["woman_wearing_turban"]), ("👳\u200d♂\ufe0f", ["man_wearing_turban"]),
    ("👴", ["old_man"]), ("👵", ["old_woman"]), ("👶", ["baby"]), ("👷", ["construction_worker"]),
    ("👷\u200d♀\ufe0f", ["woman_construction_worker"]),
    ("👷\u200d♂\ufe0f", ["man_construction_worker"]), ("👸", ["princess"]), ("👼", ["baby_angel"]),
    ("💁", ["person_tipping_hand"]), ("💁\u200d♀\ufe0f", ["woman_tipping_hand"]),
    ("💁\u200d♂\ufe0f", ["man_tipping_hand"]), ("💂", ["guard"]), ("💂\u200d♀\ufe0f", ["woman_guard"]),
    ("💂\u200d♂\ufe0f", ["man_guard"]), ("💃", ["woman_dancing"]), ("💅", ["nail_polish"]),
    ("💆", ["person_getting_massage"]), ("💆\u200d♀\ufe0f", ["woman_getting_massage"]),
    ("💆\u200d♂\ufe0f", ["man_getting_massage"]), ("💇", ["person_getting_haircut"]),
    ("💇\u200d♀\ufe0f", ["woman_getting_haircut"]), ("💇\u200d♂\ufe0f", ["man_getting_haircut"]),
    ("💪", ["flexed_biceps"]), ("🕴", ["man_in_suit_levitating"]), ("🕵", ["detective"]),
    ("🕵\ufe0f\u200d♀\ufe0f", ["woman_detective"]), ("🕵\ufe0f\u200d♂\ufe0f", ["man_detective"]),
    ("🕺", ["man_dancing"]), ("🖐", ["hand_with_fingers_splayed"]), ("🖕", ["middle_finger"]),
    ("🖖", ["vulcan_salute"]), ("🙅", ["person_gesturing_no"]),
    ("🙅\u200d♀\ufe0f", ["woman_gesturing_no"]), ("🙅\u200d♂\ufe0f", ["man_gesturing_no"]),
    ("🙆", ["person_gesturing_ok"]), ("🙆\u200d♀\ufe0f", ["woman_gesturing_ok"]),
    ("🙆\u200d♂\ufe0f", ["man_gesturing_ok"]), ("🙇", ["person_bowing"]),
    ("🙇\u200d♀\ufe0f", ["woman_bowing"]), ("🙇\u200d♂\ufe0f", ["man_bowing"]),
    ("🙋", ["person_raising_hand"]), ("🙋\u200d♀\ufe0f", ["woman_raising_hand"]),
    ("🙋\u200d♂\ufe0f", ["man_raising_hand"]), ("🙌", ["raising_hands"]), ("🙍", ["person_frowning"]),
    ("🙍\u200d♀\ufe0f", ["woman_frowning"]), ("🙍\u200d♂\ufe0f", ["man_frowning"]),
    ("🙎", ["person_pouting"]), ("🙎\u200d♀\ufe0f", ["woman_pouting"]),
    ("🙎\u200d♂\ufe0f", ["man_pouting"]), ("🙏", ["folded_hands"]), ("🚣", ["person_rowing_boat"]),
    ("🚣\u200d♀\ufe0f", ["woman_rowing_boat"]), ("🚣\u200d♂\ufe0f", ["man_rowing_boat"]),
    ("🚴", ["person_biking"]), ("🚴\u200d♀\ufe0f", ["woman_biking"]),
    ("🚴\u200d♂\ufe0f", ["man_biking"]), ("🚵", ["person_mountain_biking"]),
    ("🚵\u200d♀\ufe0f", ["woman_mountain_biking"]), ("🚵\u200d♂\ufe0f", ["man_mountain_biking"]),
    ("🚶", ["person_walking"]), ("🚶\u200d♀\ufe0f", ["woman_walking"]),
    ("🚶\u200d♂\ufe0f", ["man_walking"]), ("🛀", ["person_taking_bath"]), ("🛌", ["person_in_bed"]),
    ("🤘", ["sign_of_the_horns"]), ("🤙", ["call_me_hand"]), ("🤚", ["raised_back_of_hand"]),
    ("🤛", ["left-facing_fist"]), ("🤜", ["right-facing_fist"]), ("🤞", ["crossed_fingers"]),
    ("🤟", ["love-you_gesture"]), ("🤦", ["person_facepalming"]),
    ("🤦\u200d♀\ufe0f", ["woman_facepalming"]), ("🤦\u200d♂\ufe0f", ["man_facepalming"]),
    ("🤰", ["pregnant_woman"]), ("🤱", ["breast-feeding"]), ("🤲", ["palms_up_together"]),
    ("🤳", ["selfie"]), ("🤴", ["prince"]), ("🤵", ["man_in_tuxedo"]), ("🤶", ["mrs._claus"]),
    ("🤷", ["person_shrugging"]), ("🤷\u200d♀\ufe0f", ["woman_shrugging"]),
    ("🤷\u200d♂\ufe0f", ["man_shrugging"]), ("🤸", ["person_cartwheeling"]),
    ("🤸\u200d♀\ufe0f", ["woman_cartwheeling"]), ("🤸\u200d♂\ufe0f", ["man_cartwheeling"]),
    ("🤹", ["person_juggling"]), ("🤹\u200d♀\ufe0f", ["woman_juggling"]),
    ("🤹\u200d♂\ufe0f", ["man_juggling"]), ("🤽", ["person_playing_water_polo"]),
    ("🤽\u200d♀\ufe0f", ["woman_playing_water_polo"]),
    ("🤽\u200d♂\ufe0f", ["man_playing_water_polo"]), ("🤾", ["person_playing_handball"]),
    ("🤾\u200d♀\ufe0f", ["woman_playing_handball"]), ("🤾\u200d♂\ufe0f", ["man_playing_handball"]),
    ("🧑", ["adult"]), ("🧒", ["child"]), ("🧓", ["older_adult"]), ("🧔", ["bearded_person"]),
    ("🧕", ["woman_with_headscarf"]), ("🧖", ["person_in_steamy_room"]),
    ("🧖\u200d♀\ufe0f", ["woman_in_steamy_room"]), ("🧖\u200d♂\ufe0f", ["man_in_steamy_room"]),
    ("🧗", ["person_climbing"]), ("🧗\u200d♀\ufe0f", ["woman_climbing"]),
    ("🧗\u200d♂\ufe0f", ["man_climbing"]), ("🧘", ["person_in_lotus_position"]),
    ("🧘\u200d♀\ufe0f", ["woman_in_lotus_position"]), ("🧘\u200d♂\ufe0f", ["man_in_lotus_position"]),
    ("🧙", ["mage"]), ("🧙\u200d♀\ufe0f", ["woman_mage"]), ("🧙\u200d♂\ufe0f", ["man_mage"]),
    ("🧚", ["fairy"]), ("🧚\u200d♀\ufe0f", ["woman_fairy"]), ("🧚\u200d♂\ufe0f", ["man_fairy"]),
    ("🧛", ["vampire"]), ("🧛\u200d♀\ufe0f", ["woman_vampire"]), ("🧛\u200d♂\ufe0f", ["man_vampire"]),
    ("🧜", ["merperson"]), ("🧜\u200d♀\ufe0f", ["mermaid"]), ("🧜\u200d♂\ufe0f", ["merman"]),
    ("🧝", ["elf"]), ("🧝\u200d♀\ufe0f", ["woman_elf"]), ("🧝\u200d♂\ufe0f", ["man_elf"])
  ]

/-- Codes and names of the countries whose flags have the bare name and the name with `flag_for_`
before it. -/
def countries : List (String × String) :=
  [
    ("AC", "ascension_island"), ("AD", "andorra"), ("AE", "united_arab_emirates"),
    ("AF", "afghanistan"), ("AG", "antigua_&_barbuda"), ("AI", "anguilla"), ("AL", "albania"),
    ("AM", "armenia"), ("AO", "angola"), ("AQ", "antarctica"), ("AR", "argentina"),
    ("AS", "american_samoa"), ("AT", "austria"), ("AU", "australia"), ("AW", "aruba"),
    ("AX", "åland_islands"), ("AZ", "azerbaijan"), ("BA", "bosnia_&_herzegovina"),
    ("BB", "barbados"), ("BD", "bangladesh"), ("BE", "belgium"), ("BF", "burkina_faso"),
    ("BG", "bulgaria"), ("BH", "bahrain"), ("BI", "burundi"), ("BJ", "benin"),
    ("BL", "st._barthélemy"), ("BM", "bermuda"), ("BN", "brunei"), ("BO", "bolivia"),
    ("BQ", "caribbean_netherlands"), ("BR", "brazil"), ("BS", "bahamas"), ("BT", "bhutan"),
    ("BV", "bouvet_island"), ("BW", "botswana"), ("BY", "belarus"), ("BZ", "belize"),
    ("CA", "canada"), ("CF", "central_african_republic"), ("CH", "switzerland"),
    ("CI", "côte_d’ivoire"), ("CK", "cook_islands"), ("CL", "chile"), ("CM", "cameroon"),
    ("CN", "china"), ("CO", "colombia"), ("CP", "clipperton_island"), ("CR", "costa_rica"),
    ("CU", "cuba"), ("CV", "cape_verde"), ("CW", "curaçao"), ("CX", "christmas_island"),
    ("CY", "cyprus"), ("DE", "germany"), ("DG", "diego_garcia"), ("DJ", "djibouti"),
    ("DK", "denmark"), ("DM", "dominica"), ("DO", "dominican_republic"), ("DZ", "algeria"),
    ("EA", "ceuta_&_melilla"), ("EC", "ecuador"), ("EE", "estonia"), ("EG", "egypt"),
    ("EH", "western_sahara"), ("ER", "eritrea"), ("ES", "spain"), ("ET", "ethiopia"),
    ("EU", "european_union"), ("FI", "finland"), ("FJ", "fiji"), ("FK", "falkland_islands"),
    ("FM", "micronesia"), ("FO", "faroe_islands"), ("FR", "france"), ("GA", "gabon"),
    ("GB", "united_kingdom"), ("GD", "grenada"), ("GE", "georgia"), ("GF", "french_guiana"),
    ("GG", "guernsey"), ("GH", "ghana"), ("GI", "gibraltar"), ("GL", "greenland"), ("GM", "gambia"),
    ("GN", "guinea"), ("GP", "guadeloupe"), ("GQ", "equatorial_guinea"), ("GR", "greece"),
    ("GS", "south_georgia_&_south_sandwich_islands"), ("GT", "guatemala"), ("GU", "guam"),
    ("GY", "guyana"), ("HM", "heard_&_mcdonald_islands"), ("HN", "honduras"), ("HR", "croatia"),
    ("HT", "haiti"), ("HU", "hungary"), ("IC", "canary_islands"), ("ID", "indonesia"),
    ("IE", "ireland"), ("IL", "israel"), ("IM", "isle_of_man"), ("IN", "india"),
    ("IO", "british_indian_ocean_territory"), ("IQ", "iraq"), ("IR", "iran"), ("IS", "iceland"),
    ("IT", "italy"), ("JE", "jersey"), ("JM", "jamaica"), ("JO", "jordan"), ("KE", "kenya"),
    ("KG", "kyrgyzstan"), ("KH", "cambodia"), ("KI", "kiribati"), ("KM", "comoros"),
    ("KN", "st._kitts_&_nevis"), ("KP", "north_korea"), ("KR", "south_korea"), ("KW", "kuwait"),
    ("KY", "cayman_islands"), ("KZ", "kazakhstan"), ("LA", "laos"), ("LB", "lebanon"),
    ("LC", "st._lucia"), ("LI", "liechtenstein"), ("LK", "sri_lanka"), ("LR", "liberia"),
    ("LS", "lesotho"), ("LT", "lithuania"), ("LU", "luxembourg"), ("LV", "latvia"), ("LY", "libya"),
    ("MA", "morocco"), ("MC", "monaco"), ("MD", "moldova"), ("ME", "montenegro"),
    ("MF", "st._martin"), ("MG", "madagascar"), ("MH", "marshall_islands"), ("MK", "macedonia"),
    ("ML", "mali"), ("MN", "mongolia"), ("MP", "northern_mariana_islands"), ("MQ", "martinique"),
    ("MR", "mauritania"), ("MS", "montserrat"), ("MT", "malta"), ("MU", "mauritius"),
    ("MV", "maldives"), ("MW", "malawi"), ("MX", "mexico"), ("MY", "malaysia"),
    ("MZ", "mozambique"), ("NA", "namibia"), ("NC", "new_caledonia"), ("NE", "niger"),
    ("NF", "norfolk_island"), ("NG", "nigeria"), ("NI", "nicaragua"), ("NL", "netherlands"),
    ("NO", "norway"), ("NP", "nepal"), ("NR", "nauru"), ("NU", "niue"), ("NZ", "new_zealand"),
    ("OM", "oman"), ("PA", "panama"), ("PE", "peru"), ("PF", "french_polynesia"),
    ("PG", "papua_new_guinea"), ("PH", "philippines"), ("PK", "pakistan"), ("PL", "poland"),
    ("PM", "st._pierre_&_miquelon"), ("PN", "pitcairn_islands"), ("PR", "puerto_rico"),
    ("PS", "palestinian_territories"), ("PT", "portugal"), ("PW", "palau"), ("PY", "paraguay"),
    ("QA", "qatar"), ("RE", "réunion"), ("RO", "romania"), ("RS", "serbia"), ("RU", "russia"),
    ("RW", "rwanda"), ("SA", "saudi_arabia"), ("SB", "solomon_islands"), ("SC", "seychelles"),
    ("SD", "sudan"), ("SE", "sweden"), ("SG", "singapore"), ("SH", "st._helena"),
    ("SI", "slovenia"), ("SJ", "svalbard_&_jan_mayen"), ("SK", "slovakia"), ("SL", "sierra_leone"),
    ("SM", "san_marino"), ("SN", "senegal"), ("SO", "somalia"), ("SR", "suriname"),
    ("SS", "south_sudan"), ("ST", "são_tomé_&_príncipe"), ("SV", "el_salvador"),
    ("SX", "sint_maarten"), ("SY", "syria"), ("SZ", "swaziland"), ("TA", "tristan_da_cunha"),
    ("TC", "turks_&_caicos_islands"), ("TD", "chad"), ("TF", "french_southern_territories"),
    ("TG", "togo"), ("TH", "thailand"), ("TJ", "tajikistan"), ("TK", "tokelau"),
    ("TM", "turkmenistan"), ("TN", "tunisia"), ("TO", "tonga"), ("TT", "trinidad_&_tobago"),
    ("TV", "tuvalu"), ("TW", "taiwan"), ("TZ", "tanzania"), ("UA", "ukraine"), ("UG", "uganda"),
    ("UM", "u.s._outlying_islands"), ("US", "united_states"), ("UY", "uruguay"),
    ("UZ", "uzbekistan"), ("VA", "vatican_city"), ("VC", "st._vincent_&_grenadines"),
    ("VE", "venezuela"), ("VG", "british_virgin_islands"), ("VI", "u.s._virgin_islands"),
    ("VN", "vietnam"), ("VU", "vanuatu"), ("WF", "wallis_&_futuna"), ("WS", "samoa"),
    ("XK", "kosovo"), ("YE", "yemen"), ("YT", "mayotte"), ("ZA", "south_africa"), ("ZM", "zambia"),
    ("ZW", "zimbabwe")
  ]

def otherCountries : List (String × String) :=
  [
    ("CC", "cocos_(keeling)_islands"), ("CC", "flag_for_cocos__islands"),
    ("CD", "congo_-_kinshasa"), ("CD", "flag_for_congo____kinshasa"), ("CG", "congo_-_brazzaville"),
    ("CG", "flag_for_congo____brazzaville"), ("CZ", "czechia"), ("CZ", "flag_for_czech_republic"),
    ("GW", "flag_for_guinea__bissau"), ("GW", "guinea-bissau"), ("HK", "flag_for_hong_kong"),
    ("HK", "hong_kong_sar_china"), ("JP", "flag_for_japan"), ("MM", "flag_for_myanmar"),
    ("MM", "myanmar_(burma)"), ("MO", "flag_for_macau"), ("MO", "macau_sar_china"),
    ("TL", "flag_for_timor__leste"), ("TL", "timor-leste"), ("TR", "flag_for_turkey"),
    ("UN", "united_nations")
  ]

def regions : List (String × String) :=
  [("gbeng", "england"), ("gbsct", "scotland"), ("gbwls", "wales")]

def countryFlag (code : String) : String :=
  String.ofList (code.toList.map fun c ↦ Char.ofNat (0x1F1E6 + (c.toNat - 'A'.toNat)))

def regionFlag (code : String) : String :=
  String.ofList ('🏴' :: (code.toList.map fun c ↦ Char.ofNat (0xE0000 + c.toNat)) ++
    [Char.ofNat 0xE007F])

def flag? (name : String) : Option String :=
  match countries.find? fun (_, country) ↦ country == name || "flag_for_" ++ country == name with
  | some (code, _) => some (countryFlag code)
  | none =>
    match otherCountries.find? fun (_, country) ↦ country == name with
    | some (code, _) => some (countryFlag code)
    | none => (regions.find? fun (_, region) ↦ region == name).map fun (code, _) ↦ regionFlag code

end Boilerplate.Text.Emoji
