import ArgHints.Text

namespace ArgHints.Console

/-- The emoji of the printing library, the shortest names first. Each name is followed by what it
stands for. -/
def emojiRows : List String :=
  ["a 🅰 b 🅱 m Ⓜ o ⭕ v ✌ x ❌ +1 👍 -1 👎 ab 🆎 cd 💿 cl 🆑 id 🆔 ng 🆖 o2 🅾 ok 🆗 om 🕉 on 🔛 ox 🐂 sa 🈂",
   "tm ™ tv 📺 up 🆙 vs 🆚 wc 🚾 100 💯 __1 👎 abc 🔤 ant 🐜 art 🎨 atm 🏧 axe 🪓 bat 🦇 bed 🛏 bee 🐝 bow 🙇",
   "boy 👦 bug 🐛 bus 🚌 car 🚗 cat 🐱 cop 👮 cow 🐮 cry 😢 dna 🧬 dog 🐶 dvd 📀 ear 👂 egg 🍳 elf 🧝 end 🔚",
   "ewe 🐑 eye 👁 fax 📠 fog 🌫 gem 💎 gun 🔫 ice 🧊 imp 👿 joy 😂 key 🔑 leg 🦵 leo ♌ mag 🔍 man 👨 new 🆕",
   "one 1️⃣ owl 🦉 pen 🖊 pie 🥧 pig 🐷 ram 🐏 rat 🐀 six 6️⃣ ski 🎿 sob 😭 sos 🆘 sun ☀ tea 🍵 ten 🔟",
   "top 🔝 two 2️⃣ vhs 📼 yen 💴 yum 😋 zap ⚡ zzz 💤 1234 🔢 abcd 🔡 baby 👶 back 🔙 bald 🦲 bank 🏦 bath 🛀",
   "bear 🐻 beer 🍺 bell 🔔 bike 🚲 bird 🐦 boar 🐗 boat ⛵ bomb 💣 bone 🦴 book 📖 boom 💥 boot 👢 bulb 💡",
   "cake 🍰 cat2 🐈 chad 🇹🇩 clap 👏 coat 🧥 cool 🆒 corn 🌽 cow2 🐄 crab 🦀 cuba 🇨🇺 dart 🎯 dash 💨 date 📅",
   "deer 🦌 dog2 🐕 door 🚪 dove 🕊 drum 🥁 duck 🦆 euro 💶 eyes 👀 feet 🐾 fiji 🇫🇯 fire 🔥 fish 🐟 fist ✊",
   "five 5️⃣ foot 🦶 four 4️⃣ free 🆓 frog 🐸 gear ⚙ gift 🎁 girl 👧 goat 🐐 golf ⛳ grin 😁 guam 🇬🇺",
   "hand ✋ herb 🌿 hole 🕳 iran 🇮🇷 iraq 🇮🇶 kiss 💋 kite 🪁 koko 🈁 laos 🇱🇦 link 🔗 lips 👄 lock 🔒",
   "loop ➿ mage 🧙 mali 🇲🇱 mask 😷 mate 🧉 mega 📣 memo 📝 mens 🚹 moai 🗿 moon 🌔 mute 🔇 nine 9️⃣",
   "niue 🇳🇺 nose 👃 oden 🍢 ogre 👹 oman 🇴🇲 pear 🍐 peru 🇵🇪 pick ⛏ pig2 🐖 pill 💊 poop 💩 pray 🙏",
   "rage 😡 rice 🍚 ring 💍 rose 🌹 sake 🍶 salt 🧂 sari 🥻 seat 💺 ship 🚢 shit 💩 shoe 👞 skis 🎿 sled 🛷",
   "soap 🧼 soon 🔜 star ⭐ stew 🍲 swan 🦢 taco 🌮 tada 🎉 taxi 🚕 tent ⛺ togo 🇹🇬 tram 🚊 wave 👋 wink 😉",
   "wolf 🐺 yarn 🧶 zero 0️⃣ 8ball 🎱 adult 🧑 alien 👽 angel 👼 anger 💢 angry 😠 apple 🍎 aries ♈",
   "aruba 🇦🇼 bacon 🥓 bagel 🥯 banjo 🪕 beers 🍻 benin 🇧🇯 bento 🍱 blush 😊 books 📚 brain 🧠 bread 🍞",
   "brick 🧱 broom 🧹 camel 🐫 candy 🍬 canoe 🛶 chair 🪑 chart 💹 child 🧒 chile 🇨🇱 china 🇨🇳 clamp 🗜",
   "cloud ☁ clubs ♣ comet ☄ crown 👑 cupid 💘 curry 🍛 dango 🍡 dizzy 💫 dolls 🎎 dress 👗 eagle 🦅",
   "egypt 🇪🇬 eight 8️⃣ email ✉ fairy 🧚 ferry ⛴ flags 🎏 foggy 🌁 fries 🍟 gabon 🇬🇦 genie 🧞 ghana 🇬🇭",
   "ghost 👻 guard 💂 haiti 🇭🇹 heart ❤ hocho 🔪 horse 🐴 hotel 🏨 house 🏠 india 🇮🇳 italy 🇮🇹 japan 🗾",
   "jeans 👖 joker 🃏 kaaba 🕋 kenya 🇰🇪 knife 🔪 koala 🐨 label 🏷 lemon 🍋 libra ♎ libya 🇱🇾 llama 🦙",
   "malta 🇲🇹 mango 🥭 melon 🍈 metro 🚇 mouse 🐭 mouth 👄 moyai 🗿 nauru 🇳🇷 nepal 🇳🇵 niger 🇳🇪 notes 🎶",
   "ocean 🌊 onion 🧅 otter 🦦 pager 📟 palau 🇵🇼 peach 🍑 phone ☎ pizza 🍕 pouch 👝 pound 💷 punch 👊",
   "purse 👛 qatar 🇶🇦 radio 📻 ramen 🍜 razor 🪒 robot 🤖 samoa 🇼🇸 santa 🎅 scarf 🧣 seven 7️⃣ shark 🦈",
   "sheep 🐑 shell 🐚 shirt 👕 skier ⛷ skull 💀 skunk 🦨 sloth 🦥 smile 😄 smirk 😏 snail 🐌 snake 🐍",
   "socks 🧦 sound 🔉 spain 🇪🇸 spoon 🥄 squid 🦑 star2 🌟 stars 🌠 sudan 🇸🇩 sunny ☀ sushi 🍣 sweat 😓",
   "syria 🇸🇾 t-rex 🦖 three 3️⃣ tiger 🐯 tonga 🇹🇴 tooth 🦷 train 🚋 truck 🚚 tulip 🌷 u5272 🈹 u5408 🈴",
   "u55b6 🈺 u6307 🈯 u6708 🈷 u6709 🈶 u6e80 🈵 u7121 🈚 u7533 🈸 u7981 🈲 u7a7a 🈳 virgo ♍",
   "wales 🏴󠁧󠁢󠁷󠁬󠁳󠁿 watch ⌚ weary 😩 whale 🐳 woman 👩 yemen 🇾🇪 yo-yo 🪀 zebra 🦓 abacus 🧮 accept 🉑",
   "anchor ⚓ angola 🇦🇴 badger 🦡 bamboo 🎍 banana 🍌 barber 💈 basket 🧺 beetle 🐞 belize 🇧🇿 bhutan 🇧🇹",
   "bikini 👙 brazil 🇧🇷 briefs 🩲 brunei 🇧🇳 butter 🧈 cactus 🌵 camera 📷 canada 🇨🇦 cancer ♋ candle 🕯",
   "carrot 🥕 castle 🏰 chains ⛓ church ⛪ cinema 🎦 clock1 🕐 clock2 🕑 clock3 🕒 clock4 🕓 clock5 🕔",
   "clock6 🕕 clock7 🕖 clock8 🕗 clock9 🕘 coffee ☕ coffin ⚰ cookie 🍪 couple 👫 crayon 🖍 cyprus 🇨🇾",
   "dagger 🗡 dancer 💃 desert 🏜 dollar 💵 dragon 🐉 e-mail 📧 family 👪 france 🇫🇷 gambia 🇬🇲 garlic 🧄",
   "gemini ♊ gloves 🧤 goblin 👺 golfer 🏌 grapes 🍇 greece 🇬🇷 guinea 🇬🇳 guitar 🎸 guyana 🇬🇾 hammer 🔨",
   "hankey 💩 hearts ♥ houses 🏘 hushed 😯 iphone 📱 israel 🇮🇱 jersey 🇯🇪 jigsaw 🧩 jordan 🇯🇴 kimono 👘",
   "kosovo 🇽🇰 kuwait 🇰🇼 latvia 🇱🇻 leaves 🍃 ledger 📒 lizard 🦎 locked 🔒 magnet 🧲 malawi 🇲🇼",
   "merman 🧜‍♂️ mexico 🇲🇽 monaco 🇲🇨 monkey 🐒 mosque 🕌 mouse2 🐁 muscle 💪 norway 🇳🇴 office 🏢",
   "oyster 🦪 panama 🇵🇦 parrot 🦜 pencil 📝 pisces ♓ pistol 🔫 poland 🇵🇱 poodle 🐩 potato 🥔 prince 🤴",
   "rabbit 🐰 repeat 🔁 rewind ⏪ ribbon 🎀 rocket 🚀 runner 🏃 russia 🇷🇺 rwanda 🇷🇼 sandal 👡 scales ⚖",
   "school 🏫 scream 😱 scroll 📜 secret ㊙ selfie 🤳 serbia 🇷🇸 shield 🛡 shorts 🩳 shower 🚿 shrimp 🦐",
   "sleepy 😪 smiley 😃 soccer ⚽ spades ♠ spider 🕷 sponge 🧽 sunset 🌇 surfer 🏄 sweden 🇸🇪 taiwan 🇹🇼",
   "taurus ♉ tennis 🎾 thread 🧵 ticket 🎫 tiger2 🐅 toilet 🚽 tomato 🍅 tongue 👅 tophat 🎩 train2 🚆",
   "trophy 🏆 tshirt 👕 turkey 🦃 turtle 🐢 tuvalu 🇹🇻 uganda 🇺🇬 unlock 🔓 violin 🎻 waffle 🧇 whale2 🐋",
   "womens 🚺 wrench 🔧 zambia 🇿🇲 zombie 🧟 albania 🇦🇱 alembic ⚗ algeria 🇩🇿 amphora 🏺 andorra 🇦🇩",
   "armenia 🇦🇲 austria 🇦🇹 avocado 🥑 bahamas 🇧🇸 bahrain 🇧🇭 balloon 🎈 bathtub 🛁 battery 🔋",
   "belarus 🇧🇾 belgium 🇧🇪 bermuda 🇧🇲 bicycle 🚲 blossom 🌼 bolivia 🇧🇴 bouquet 💐 bowling 🎳",
   "burrito 🌯 burundi 🇧🇮 busstop 🚏 calling 📲 camping 🏕 chicken 🐔 clapper 🎬 clock10 🕙 clock11 🕚",
   "clock12 🕛 coconut 🥥 comoros 🇰🇲 compass 🧭 cooking 🍳 cricket 🦗 croatia 🇭🇷 cupcake 🧁 curaçao 🇨🇼",
   "custard 🍮 customs 🛃 cyclone 🌀 czechia 🇨🇿 dancers 👯 denmark 🇩🇰 dolphin 🐬 droplet 💧 e__mail 📧",
   "ecuador 🇪🇨 england 🏴󠁧󠁢󠁥󠁮󠁧󠁿 eritrea 🇪🇷 estonia 🇪🇪 factory 🏭 falafel 🧆 fearful 😨 finland 🇫🇮",
   "flipper 🐬 flushed 😳 georgia 🇬🇪 germany 🇩🇪 giraffe 🦒 glasses 👓 goggles 🥽 gorilla 🦍 grenada 🇬🇩",
   "haircut 💇 hamster 🐹 handbag 👜 hot_dog 🌭 hungary 🇭🇺 iceland 🇮🇸 ireland 🇮🇪 jamaica 🇯🇲",
   "joy_cat 😹 kissing 😗 lantern 🏮 lebanon 🇱🇧 leopard 🐆 lesotho 🇱🇸 liberia 🇱🇷 lobster 🦞 luggage 🧳",
   "mahjong 🀄 mailbox 📫 man_elf 🧝‍♂️ massage 💆 mayotte 🇾🇹 menorah 🕎 mermaid 🧜‍♀️ microbe 🦠",
   "minibus 🚐 moldova 🇲🇩 morocco 🇲🇦 namibia 🇳🇦 necktie 👔 nigeria 🇳🇬 no_bell 🔕 no_good 🙅",
   "octopus 🐙 ok_hand 👌 old_key 🗝 old_man 👴 package 📦 parking 🅿 peacock 🦚 peanuts 🥜 pencil2 ✏",
   "penguin 🐧 pensive 😔 popcorn 🍿 postbox 📮 pretzel 🥨 printer 🖨 pushpin 📌 rabbit2 🐇 raccoon 🦝",
   "rainbow 🌈 receipt 🧾 recycle ♻ red_car 🚗 relaxed ☺ romania 🇷🇴 rooster 🐓 rosette 🏵 rowboat 🚣",
   "running 🏃 réunion 🇷🇪 scorpio ♏ senegal 🇸🇳 smoking 🚬 snowman ☃ somalia 🇸🇴 sparkle ❇ speaker 🔈",
   "stadium 🏟 station 🚉 sunrise 🌅 swimmer 🏊 symbols 🔣 syringe 💉 t-shirt 👕 tokelau 🇹🇰 toolbox 🧰",
   "top_hat 🎩 tornado 🌪 tractor 🚜 trident 🔱 triumph 😤 trumpet 🎺 tunisia 🇹🇳 ukraine 🇺🇦 uruguay 🇺🇾",
   "vampire 🧛 vanuatu 🇻🇺 vietnam 🇻🇳 volcano 🌋 walking 🚶 warning ⚠ wedding 💒 worried 😟 airplane ✈",
   "anguilla 🇦🇮 aquarius ♒ arrow_up ⬆ atm_sign 🏧 bald_man 👨‍🦲 bangbang ‼ barbados 🇧🇧 baseball ⚾",
   "beer_mug 🍺 beginner 🔰 birthday 🎂 blowfish 🐡 blue_car 🚙 bookmark 🔖 botswana 🇧🇼 broccoli 🥦",
   "bulgaria 🇧🇬 bus_stop 🚏 calendar 📆 cambodia 🇰🇭 cameroon 🇨🇲 cat_face 🐱 cherries 🍒 chestnut 🌰",
   "chipmunk 🐿 clock130 🕜 clock230 🕝 clock330 🕞 clock430 🕟 clock530 🕠 clock630 🕡 clock730 🕢",
   "clock830 🕣 clock930 🕤 cocktail 🍸 colombia 🇨🇴 computer 💻 confused 😕 cow_face 🐮 cucumber 🥒",
   "diamonds ♦ djibouti 🇩🇯 dog_face 🐶 dominica 🇩🇲 doughnut 🍩 dumpling 🥟 eggplant 🍆 elephant 🐘",
   "envelope ✉ ethiopia 🇪🇹 flamingo 🦩 football 🏈 fountain ⛲ fox_face 🦊 frowning 😦 fuelpump ⛽",
   "game_die 🎲 goal_net 🥅 grinning 😀 guernsey 🇬🇬 hedgehog 🦔 hibiscus 🌺 honduras 🇭🇳 honeybee 🐝",
   "hospital 🏥 hot_face 🥵 icecream 🍦 infinity ♾ innocent 😇 joystick 🕹 kangaroo 🦘 keyboard ⌨",
   "keycap_# #️⃣ keycap_* *️⃣ keycap_0 0️⃣ keycap_1 1️⃣ keycap_2 2️⃣ keycap_3 3️⃣ keycap_4 4️⃣",
   "keycap_5 5️⃣ keycap_6 6️⃣ keycap_7 7️⃣ keycap_8 8️⃣ keycap_9 9️⃣ kiribati 🇰🇮 lab_coat 🥼",
   "lacrosse 🥍 laughing 😆 lipstick 💄 lollipop 🍭 malaysia 🇲🇾 maldives 🇲🇻 man_cook 👨‍🍳",
   "man_mage 🧙‍♂️ minidisc 💽 moneybag 💰 mongolia 🇲🇳 monorail 🚝 mosquito 🦟 motorway 🛣 mountain ⛰",
   "mushroom 🍄 new_moon 🌑 no_entry ⛔ no_mouth 😶 notebook 📓 oil_drum 🛢 ok_woman 🙆 p_button 🅿",
   "pakistan 🇵🇰 pancakes 🥞 paraguay 🇵🇾 pig_face 🐷 pig_nose 🐽 point_up ☝ portugal 🇵🇹 princess 👸",
   "question ❓ red_hair 🦰 relieved 😌 restroom 🚻 sailboat ⛵ sandwich 🥪 sauropod 🦕 scissors ✂",
   "scorpion 🦂 scorpius ♏ scotland 🏴󠁧󠁢󠁳󠁣󠁴󠁿 seedling 🌱 shamrock ☘ sleeping 😴 slovakia 🇸🇰",
   "slovenia 🇸🇮 softball 🥎 sparkler 🎇 sparkles ✨ suriname 🇸🇷 tanzania 🇹🇿 thailand 🇹🇭 thumbsup 👍",
   "tram_car 🚋 umbrella ☂ unamused 😒 underage 🔞 unlocked 🔓 up_arrow ⬆ yin_yang ☯ zimbabwe 🇿🇼",
   "ambulance 🚑 anguished 😧 argentina 🇦🇷 australia 🇦🇺 badminton 🏸 bar_chart 📊 bear_face 🐻",
   "bento_box 🍱 bicyclist 🚴 biohazard ☣ black_nib ✒ blue_book 📘 briefcase 💼 butterfly 🦋",
   "capricorn ♑ cigarette 🚬 circled_m Ⓜ cityscape 🏙 cl_button 🆑 clipboard 📋 clock1030 🕥",
   "clock1130 🕦 clock1230 🕧 club_suit ♣ cold_face 🥶 collision 💥 copyright © crocodile 🐊",
   "croissant 🥐 detective 🕵 diya_lamp 🪔 end_arrow 🔚 facepunch 👊 fireworks 🎆 fish_cake 🍥",
   "flat_shoe 🥿 frog_face 🐸 fuel_pump ⛽ full_moon 🌕 gem_stone 💎 gibraltar 🇬🇮 greenland 🇬🇱",
   "grimacing 😬 guardsman 💂 guatemala 🇬🇹 guide_dog 🦮 hamburger 🍔 handshake 🤝 headphone 🎧",
   "heartbeat 💓 high_heel 👠 honey_pot 🍯 hourglass ⌛ ice_cream 🍨 ice_skate ⛸ id_button 🆔",
   "indonesia 🇮🇩 keycap_10 🔟 kiss_mark 💋 lion_face 🦁 lithuania 🇱🇹 macedonia 🇲🇰 mag_right 🔎",
   "male_sign ♂ man_fairy 🧚‍♂️ man_genie 🧞‍♂️ man_guard 💂‍♂️ man_judge 👨‍⚖️ man_pilot 👨‍✈️",
   "mans_shoe 👞 mauritius 🇲🇺 megaphone 📣 merperson 🧜 milky_way 🌌 money_bag 💰 moon_cake 🥮",
   "nail_care 💅 nerd_face 🤓 newspaper 📰 ng_button 🆖 nicaragua 🇳🇮 ok_button 🆗 old_woman 👵",
   "older_man 👴 om_symbol 🕉 on!_arrow 🔛 open_book 📖 ophiuchus ⛎ orangutan 🦧 palm_tree 🌴",
   "paperclip 📎 persevere 😣 pineapple 🍍 ping_pong 🏓 racehorse 🐎 red_apple 🍎 red_heart ❤",
   "rice_ball 🍙 satellite 📡 satisfied 😆 saxophone 🎷 shortcake 🍰 singapore 🇸🇬 smile_cat 😸",
   "smirk_cat 😼 snowflake ❄ spaghetti 🍝 speedboat 🚤 sri_lanka 🇱🇰 st._lucia 🇱🇨 stop_sign 🛑",
   "stopwatch ⏱ sunflower 🌻 superhero 🦸 swaziland 🇸🇿 synagogue 🕍 tangerine 🍊 telephone ☎",
   "telescope 🔭 test_tube 🧪 thumbs_up 👍 top_arrow 🔝 trackball 🖲 venezuela 🇻🇪 vs_button 🆚",
   "wavy_dash 〰 wind_face 🌬 wolf_face 🐺 woman_elf 🧝‍♀️ world_map 🗺 zany_face 🤪 angry_face 😠",
   "antarctica 🇦🇶 arrow_down ⬇ arrow_left ⬅ astonished 😲 automobile 🚗 azerbaijan 🇦🇿 baby_angel 👼",
   "baby_chick 🐤 back_arrow 🔙 bald_woman 👩‍🦲 bangladesh 🇧🇩 basketball 🏀 billed_cap 🧢",
   "black_flag 🏴 blue_heart 💙 cape_verde 🇨🇻 card_index 📇 chess_pawn ♟ chopsticks 🥢 clown_face 🤡",
   "clutch_bag 👝 cold_sweat 😰 confounded 😖 costa_rica 🇨🇷 couplekiss 💏 cross_mark ❌ curly_hair 🦱",
   "curly_loop ➰ curry_rice 🍛 dim_button 🔅 direct_hit 🎯 dizzy_face 😵 down_arrow ⬇ earth_asia 🌏",
   "eyeglasses 👓 flashlight 🔦 footprints 👣 gift_heart 💝 green_book 📗 guadeloupe 🇬🇵 headphones 🎧",
   "heart_eyes 😍 heart_suit ♥ heartpulse 💗 helicopter 🚁 horse_face 🐴 hot_pepper 🌶 hotsprings ♨",
   "ice_hockey 🏒 inbox_tray 📥 kazakhstan 🇰🇿 kiwi_fruit 🥝 kyrgyzstan 🇰🇬 left_arrow ⬅ light_bulb 💡",
   "light_rail 🚈 locomotive 🚂 loud_sound 🔊 love_hotel 🏩 luxembourg 🇱🇺 lying_face 🤥 madagascar 🇲🇬",
   "man_artist 👨‍🎨 man_biking 🚴‍♂️ man_bowing 🙇‍♂️ man_farmer 👨‍🌾 man_singer 👨‍🎤 man_zombie 🧟‍♂️",
   "man’s_shoe 👞 maple_leaf 🍁 martinique 🇲🇶 mauritania 🇲🇷 men’s_room 🚹 micronesia 🇫🇲",
   "microphone 🎤 microscope 🔬 montenegro 🇲🇪 montserrat 🇲🇸 motor_boat 🛥 motorcycle 🏍 mount_fuji 🗻",
   "mouse_face 🐭 mozambique 🇲🇿 mrs._claus 🤶 name_badge 📛 new_button 🆕 no_smoking 🚭 one-thirty 🕜",
   "open_hands 👐 open_mouth 😮 paintbrush 🖌 panda_face 🐼 paw_prints 🐾 petri_dish 🧫 point_down 👇",
   "point_left 👈 point_up_2 👆 police_car 🚓 prohibited 🚫 racing_car 🏎 red_circle 🔴 red_square 🟥",
   "registered ® repeat_one 🔂 rhinoceros 🦏 rice_scene 🎑 robot_face 🤖 safety_pin 🧷 san_marino 🇸🇲",
   "scream_cat 🙀 seychelles 🇸🇨 shaved_ice 🍧 six-thirty 🕡 skateboard 🛹 smiley_cat 😺 soon_arrow 🔜",
   "sos_button 🆘 spade_suit ♠ spider_web 🕸 st._helena 🇸🇭 st._martin 🇲🇫 strawberry 🍓 sunglasses 😎",
   "tajikistan 🇹🇯 teddy_bear 🧸 television 📺 ten-thirty 🕥 thumbsdown 👎 tiger_face 🐯 tired_face 😫",
   "trade_mark ™ trolleybus 🚎 two-thirty 🕝 two_hearts 💕 up!_button 🆙 uzbekistan 🇺🇿 video_game 🎮",
   "volleyball 🏐 water_wave 🌊 watermelon 🍉 weary_face 😩 wheelchair ♿ white_flag 🏳 white_hair 🦳",
   "wind_chime 🎐 wine_glass 🍷 woman_cook 👩‍🍳 woman_mage 🧙‍♀️ womans_hat 👒 woozy_face 🥴",
   "afghanistan 🇦🇫 alarm_clock ⏰ arrow_right ➡ atom_symbol ⚛ baby_bottle 🍼 baby_symbol 🚼",
   "barber_pole 💈 black_heart 🖤 black_joker 🃏 blue_circle 🔵 blue_square 🟦 brown_heart 🤎",
   "canned_food 🥫 circus_tent 🎪 city_sunset 🌆 closed_book 📕 compression 🗜 cooked_rice 🍚",
   "cool_button 🆒 credit_card 💳 crying_face 😢 cut_of_meat 🥩 deaf_person 🧏 diving_mask 🤿",
   "dragon_face 🐲 ear_of_corn 🌽 ear_of_rice 🌾 el_salvador 🇸🇻 exclamation ❗ fallen_leaf 🍂",
   "fax_machine 📠 female_sign ♀ file_folder 📁 film_frames 🎞 fire_engine 🚒 firecracker 🧨",
   "five-thirty 🕠 floppy_disk 💾 flying_disc 🥏 four-thirty 🕟 free_button 🆓 funeral_urn ⚱",
   "green_apple 🍏 green_heart 💚 green_salad 🥗 helm_symbol ⎈ hiking_boot 🥾 hot_springs ♨",
   "hushed_face 😯 information ℹ interrobang ⁉ isle_of_man 🇮🇲 kissing_cat 😽 lady_beetle 🐞",
   "latin_cross ✝ leafy_green 🥬 loudspeaker 📢 love_letter 💌 man_dancing 🕺 man_golfing 🏌️‍♂️",
   "man_pouting 🙎‍♂️ man_running 🏃‍♂️ man_student 👨‍🎓 man_surfing 🏄‍♂️ man_teacher 👨‍🏫",
   "man_vampire 🧛‍♂️ man_walking 🚶‍♂️ monkey_face 🐵 nail_polish 💅 netherlands 🇳🇱 new_zealand 🇳🇿",
   "nine-thirty 🕤 no_bicycles 🚳 north_korea 🇰🇵 older_adult 🧓 older_woman 👵 one_o’clock 🕐",
   "orange_book 📙 outbox_tray 📤 philippines 🇵🇭 pile_of_poo 💩 pirate_flag 🏴‍☠️ play_button ▶",
   "point_right 👉 pool_8_ball 🎱 post_office 🏣 postal_horn 📯 pot_of_food 🍲 poultry_leg 🍗",
   "pouting_cat 😾 puerto_rico 🇵🇷 rabbit_face 🐰 radioactive ☢ railway_car 🚃 raised_fist ✊",
   "raised_hand ✋ right_arrow ➡ safety_vest 🦺 sagittarius ♐ santa_claus 🎅 see_no_evil 🙈",
   "service_dog 🐕‍🦺 six_o’clock 🕕 sleepy_face 😪 smiling_imp 😈 snowboarder 🏂 soccer_ball ⚽",
   "south_korea 🇰🇷 south_sudan 🇸🇸 star-struck 🤩 stethoscope 🩺 stop_button ⏹ sweat_drops 💦",
   "sweat_smile 😅 switzerland 🇨🇭 takeout_box 🥡 ten_o’clock 🕙 thermometer 🌡 thumbs_down 👎",
   "timer_clock ⏲ timor-leste 🇹🇱 tokyo_tower 🗼 two_o’clock 🕑 wastebasket 🗑 waving_hand 👋",
   "white_heart 🤍 woman_fairy 🧚‍♀️ woman_genie 🧞‍♀️ woman_guard 💂‍♀️ woman_judge 👩‍⚖️",
   "woman_pilot 👩‍✈️ woman’s_hat 👒 anger_symbol 💢 antenna_bars 📶 ballet_shoes 🩰 bellhop_bell 🛎",
   "beverage_box 🧃 black_circle ⚫ boxing_glove 🥊 broken_heart 💔 brown_circle 🟤 brown_square 🟫",
   "bullet_train 🚅 burkina_faso 🇧🇫 call_me_hand 🤙 capital_abcd 🔠 cheese_wedge 🧀 city_sunrise 🌇",
   "construction 🚧 cook_islands 🇨🇰 cricket_game 🏏 crystal_ball 🔮 dagger_knife 🗡 dashing_away 💨",
   "diamond_suit ♦ diego_garcia 🇩🇬 disappointed 😞 earth_africa 🌍 eight-thirty 🕣 eject_button ⏏",
   "eject_symbol ⏏ fast_forward ⏩ fearful_face 😨 ferris_wheel 🎡 field_hockey 🏑 file_cabinet 🗄",
   "fishing_pole 🎣 five_o’clock 🕔 flag_in_hole ⛳ fleur-de-lis ⚜ flushed_face 😳 folded_hands 🙏",
   "fountain_pen 🖋 four_o’clock 🕓 french_fries 🍟 fried_shrimp 🍤 glowing_star 🌟 green_circle 🟢",
   "green_square 🟩 hamster_face 🐹 hear_no_evil 🙉 high_voltage ⚡ hindu_temple 🛕 hippopotamus 🦛",
   "horse_racing 🏇 hot_beverage ☕ hugging_face 🤗 kick_scooter 🛴 kiss_man_man 👨‍❤️‍💋‍👨",
   "kissing_face 😗 left_luggage 🛅 level_slider 🎚 man_climbing 🧗‍♂️ man_frowning 🙍‍♂️",
   "man_juggling 🤹‍♂️ man_mechanic 👨‍🔧 man_swimming 🏊‍♂️ map_of_japan 🗾 meat_on_bone 🍖",
   "mobile_phone 📱 mortar_board 🎓 movie_camera 🎥 musical_note 🎵 nazar_amulet 🧿 neutral_face 😐",
   "nine_o’clock 🕘 no_littering 🚯 nut_and_bolt 🔩 oncoming_bus 🚍 optical_disk 💿 orange_heart 🧡",
   "partly_sunny ⛅ party_popper 🎉 pause_button ⏸ peace_symbol ☮ pensive_face 😔 pouting_face 😡",
   "prayer_beads 📿 probing_cane 🦯 purple_heart 💜 radio_button 🔘 rainbow_flag 🏳️‍🌈 raised_hands 🙌",
   "raising_hand 🙋 red_envelope 🧧 rice_cracker 🍘 running_shoe 👟 saudi_arabia 🇸🇦 seven-thirty 🕢",
   "sierra_leone 🇸🇱 sint_maarten 🇸🇽 slot_machine 🎰 smiling_face ☺ south_africa 🇿🇦 spiral_shell 🐚",
   "sports_medal 🏅 supervillain 🦹 sweet_potato 🍠 three-thirty 🕞 turkmenistan 🇹🇲 unicorn_face 🦄",
   "vatican_city 🇻🇦 victory_hand ✌ video_camera 📹 water_closet 🚾 white_circle ⚪ white_flower 💮",
   "winking_face 😉 woman_artist 👩‍🎨 woman_biking 🚴‍♀️ woman_bowing 🙇‍♀️ woman_farmer 👩‍🌾",
   "woman_singer 👩‍🎤 woman_zombie 🧟‍♀️ woman’s_boot 👢 women’s_room 🚺 worried_face 😟",
   "wrapped_gift 🎁 writing_hand ✍ yawning_face 🥱 yellow_heart 💛 yen_banknote 💴 alien_monster 👾",
   "arrow_forward ▶ arrow_up_down ↕ athletic_shoe 👟 auto_rickshaw 🛺 baggage_claim 🛄",
   "balance_scale ⚖ beating_heart 💓 birthday_cake 🎂 bookmark_tabs 📑 bouvet_island 🇧🇻",
   "bow_and_arrow 🏹 bright_button 🔆 card_file_box 🗃 carp_streamer 🎏 chocolate_bar 🍫",
   "clapper_board 🎬 computer_disk 💽 confetti_ball 🎊 confused_face 😕 control_knobs 🎛",
   "crescent_moon 🌙 crossed_flags 🎌 curling_stone 🥌 côte_d’ivoire 🇨🇮 desert_island 🏝",
   "do_not_litter 🚯 dove_of_peace 🕊 drooling_face 🤤 drop_of_blood 🩸 eight_o’clock 🕗",
   "electric_plug 🔌 eleven-thirty 🕦 euro_banknote 💶 face_vomiting 🤮 faroe_islands 🇫🇴",
   "flag_for_chad 🇹🇩 flag_for_cuba 🇨🇺 flag_for_fiji 🇫🇯 flag_for_guam 🇬🇺 flag_for_iran 🇮🇷",
   "flag_for_iraq 🇮🇶 flag_for_laos 🇱🇦 flag_for_mali 🇲🇱 flag_for_niue 🇳🇺 flag_for_oman 🇴🇲",
   "flag_for_peru 🇵🇪 flag_for_togo 🇹🇬 flexed_biceps 💪 flying_saucer 🛸 french_guiana 🇬🇫",
   "frowning_face ☹ glass_of_milk 🥛 grey_question ❔ grinning_face 😀 growing_heart 💗",
   "guinea-bissau 🇬🇼 hatched_chick 🐥 input_numbers 🔢 input_symbols 🔣 japanese_ogre 👹",
   "kissing_heart 😘 kitchen_knife 🔪 liechtenstein 🇱🇮 lotion_bottle 🧴 man_astronaut 👨‍🚀",
   "man_detective 🕵️‍♂️ man_in_tuxedo 🤵 man_scientist 👨‍🔬 man_shrugging 🤷‍♂️ men_wrestling 🤼‍♂️",
   "middle_finger 🖕 motor_scooter 🛵 musical_notes 🎶 musical_score 🎼 muted_speaker 🔇",
   "national_park 🏞 new_caledonia 🇳🇨 new_moon_face 🌚 no_entry_sign 🚫 oncoming_fist 👊",
   "oncoming_taxi 🚖 orange_circle 🟠 orange_square 🟧 partying_face 🥳 person_biking 🚴",
   "person_bowing 🙇 person_in_bed 🛌 pinching_hand 🤏 pleading_face 🥺 potable_water 🚰",
   "purple_circle 🟣 purple_square 🟪 question_mark ❓ railway_track 🛤 raising_hands 🙌",
   "record_button ⏺ relieved_face 😌 repeat_button 🔁 ringed_planet 🪐 roll_of_paper 🧻",
   "round_pushpin 📍 running_shirt 🎽 seven_o’clock 🕖 sheaf_of_rice 🌾 shinto_shrine ⛩",
   "shooting_star 🌠 shopping_bags 🛍 shopping_cart 🛒 shushing_face 🤫 sleeping_face 😴",
   "sleuth_or_spy 🕵 smirking_face 😏 sneezing_face 🤧 space_invader 👾 speak_no_evil 🙊",
   "speaking_head 🗣 star_of_david ✡ steaming_bowl 🍜 sun_with_face 🌞 tanabata_tree 🎋",
   "thinking_face 🤔 three_o’clock 🕒 traffic_light 🚥 tropical_fish 🐠 tumbler_glass 🥃",
   "twelve-thirty 🕧 unamused_face 😒 united_states 🇺🇸 up-down_arrow ↕ up-left_arrow ↖",
   "videocassette 📼 vulcan_salute 🖖 water_buffalo 🐃 weight_lifter 🏋 wilted_flower 🥀",
   "woman_dancing 💃 woman_golfing 🏌️‍♀️ woman_pouting 🙎‍♀️ woman_running 🏃‍♀️ woman_student 👩‍🎓",
   "woman_surfing 🏄‍♀️ woman_teacher 👩‍🏫 woman_vampire 🧛‍♀️ woman_walking 🚶‍♀️ yellow_circle 🟡",
   "yellow_square 🟨 åland_islands 🇦🇽 aerial_tramway 🚡 american_samoa 🇦🇸 anguished_face 😧",
   "arrow_backward ◀ arrow_up_small 🔼 artist_palette 🎨 baguette_bread 🥖 bearded_person 🧔",
   "biohazard_sign ☣ breast-feeding 🤱 canary_islands 🇮🇨 carousel_horse 🎠 cayman_islands 🇰🇾",
   "checkered_flag 🏁 chequered_flag 🏁 cherry_blossom 🌸 christmas_tree 🎄 clapping_hands 👏",
   "cocktail_glass 🍸 computer_mouse 🖱 couch_and_lamp 🛋 crossed_swords ⚔ cup_with_straw 🥤",
   "dark_skin_tone 🏿 deciduous_tree 🌳 delivery_truck 🚚 derelict_house 🏚 earth_americas 🌎",
   "eleven_o’clock 🕚 european_union 🇪🇺 evergreen_tree 🌲 exploding_head 🤯 expressionless 😑",
   "family_man_boy 👨‍👦 fast_up_button ⏫ film_projector 📽 flag_for_aruba 🇦🇼 flag_for_benin 🇧🇯",
   "flag_for_chile 🇨🇱 flag_for_china 🇨🇳 flag_for_egypt 🇪🇬 flag_for_gabon 🇬🇦 flag_for_ghana 🇬🇭",
   "flag_for_haiti 🇭🇹 flag_for_india 🇮🇳 flag_for_italy 🇮🇹 flag_for_japan 🇯🇵 flag_for_kenya 🇰🇪",
   "flag_for_libya 🇱🇾 flag_for_macau 🇲🇴 flag_for_malta 🇲🇹 flag_for_nauru 🇳🇷 flag_for_nepal 🇳🇵",
   "flag_for_niger 🇳🇪 flag_for_palau 🇵🇼 flag_for_qatar 🇶🇦 flag_for_samoa 🇼🇸 flag_for_spain 🇪🇸",
   "flag_for_sudan 🇸🇩 flag_for_syria 🇸🇾 flag_for_tonga 🇹🇴 flag_for_yemen 🇾🇪 fleur__de__lis ⚜",
   "fork_and_knife 🍴 fortune_cookie 🥠 framed_picture 🖼 full_moon_face 🌝 graduation_cap 🎓",
   "grimacing_face 😬 hatching_chick 🐣 heart_eyes_cat 😻 hourglass_done ⌛ hundred_points 💯",
   "jack-o-lantern 🎃 jack_o_lantern 🎃 japanese_dolls 🎎 kiss_woman_man 👩‍❤️‍💋‍👨 low_brightness 🔅",
   "mailbox_closed 📪 mechanical_arm 🦾 mechanical_leg 🦿 medical_symbol ⚕ military_medal 🎖",
   "nauseated_face 🤢 no_pedestrians 🚷 norfolk_island 🇳🇫 orthodox_cross ☦ page_facing_up 📄",
   "page_with_curl 📃 passenger_ship 🛳 person_fencing 🤺 person_golfing 🏌 person_pouting 🙎",
   "person_running 🏃 person_surfing 🏄 person_walking 🚶 police_officer 👮 pound_banknote 💷",
   "pregnant_woman 🤰 red-haired_man 👨‍🦰 reverse_button ◀ roller_coaster 🎢 rotating_light 🚨",
   "rugby_football 🏉 school_satchel 🎒 small_airplane 🛩 soft_ice_cream 🍦 speech_balloon 💬",
   "spiral_notepad 🗒 spouting_whale 🐳 st._barthélemy 🇧🇱 straight_ruler 📏 sweat_droplets 💦",
   "trident_emblem 🔱 tropical_drink 🍹 twelve_o’clock 🕛 two-hump_camel 🐫 united_kingdom 🇬🇧",
   "united_nations 🇺🇳 up-right_arrow ↗ upwards_button 🔼 vibration_mode 📳 weary_cat_face 🙀",
   "western_sahara 🇪🇭 woman_climbing 🧗‍♀️ woman_frowning 🙍‍♀️ woman_juggling 🤹‍♀️",
   "woman_mechanic 👩‍🔧 woman_swimming 🏊‍♀️ womans_clothes 👚 woman’s_sandal 👡 1st_place_medal 🥇",
   "2nd_place_medal 🥈 3rd_place_medal 🥉 arrow_double_up ⏫ astonished_face 😲 bell_with_slash 🔕",
   "bowl_with_spoon 🥣 bride_with_veil 👰 bridge_at_night 🌉 ceuta_&_melilla 🇪🇦 closed_umbrella 🌂",
   "cloud_with_rain 🌧 cloud_with_snow 🌨 confounded_face 😖 congratulations ㊗ cowboy_hat_face 🤠",
   "crossed_fingers 🤞 crying_cat_face 😿 dark_sunglasses 🕶 dollar_banknote 💵 down-left_arrow ↙",
   "dromedary_camel 🐪 european_castle 🏰 family_man_girl 👨‍👧 flag_for_angola 🇦🇴",
   "flag_for_belize 🇧🇿 flag_for_bhutan 🇧🇹 flag_for_brazil 🇧🇷 flag_for_brunei 🇧🇳",
   "flag_for_canada 🇨🇦 flag_for_cyprus 🇨🇾 flag_for_france 🇫🇷 flag_for_gambia 🇬🇲",
   "flag_for_greece 🇬🇷 flag_for_guinea 🇬🇳 flag_for_guyana 🇬🇾 flag_for_israel 🇮🇱",
   "flag_for_jersey 🇯🇪 flag_for_jordan 🇯🇴 flag_for_kosovo 🇽🇰 flag_for_kuwait 🇰🇼",
   "flag_for_latvia 🇱🇻 flag_for_malawi 🇲🇼 flag_for_mexico 🇲🇽 flag_for_monaco 🇲🇨",
   "flag_for_norway 🇳🇴 flag_for_panama 🇵🇦 flag_for_poland 🇵🇱 flag_for_russia 🇷🇺",
   "flag_for_rwanda 🇷🇼 flag_for_serbia 🇷🇸 flag_for_sweden 🇸🇪 flag_for_taiwan 🇹🇼",
   "flag_for_turkey 🇹🇷 flag_for_tuvalu 🇹🇻 flag_for_uganda 🇺🇬 flag_for_zambia 🇿🇲",
   "hammer_and_pick ⚒ heavy_plus_sign ➕ high_brightness 🔆 house_buildings 🏘 izakaya_lantern 🏮",
   "japanese_castle 🏯 japanese_goblin 👺 keycap_asterisk *⃣ laptop_computer 💻 light_skin_tone 🏻",
   "locked_with_key 🔐 locked_with_pen 🔏 macau_sar_china 🇲🇴 man_facepalming 🤦‍♂️",
   "man_firefighter 👨‍🚒 man_rowing_boat 🚣‍♂️ man_with_turban 👳 myanmar_(burma) 🇲🇲",
   "office_building 🏢 performing_arts 🎭 person_climbing 🧗 person_frowning 🙍 person_juggling 🤹",
   "person_kneeling 🧎 person_standing 🧍 person_swimming 🏊 pine_decoration 🎍 reminder_ribbon 🎗",
   "school_backpack 🎒 signal_strength 📶 solomon_islands 🇸🇧 sparkling_heart 💖 spiral_calendar 🗓",
   "spiral_note_pad 🗒 thought_balloon 💭 triangular_flag 🚩 wallis_&_futuna 🇼🇫 wheel_of_dharma ☸",
   "woman_astronaut 👩‍🚀 woman_detective 🕵️‍♀️ woman_scientist 👩‍🔬 woman_shrugging 🤷‍♀️",
   "woman’s_clothes 👚 women_wrestling 🤼‍♀️ adhesive_bandage 🩹 airplane_arrival 🛬",
   "arrow_down_small 🔽 arrow_heading_up ⤴ arrow_lower_left ↙ arrow_right_hook ↪",
   "arrow_upper_left ↖ arrows_clockwise 🔃 ascension_island 🇦🇨 blond-haired_man 👱‍♂️",
   "bullettrain_side 🚄 chart_decreasing 📉 chart_increasing 📈 christmas_island 🇨🇽",
   "clinking_glasses 🥂 congo_-_kinshasa 🇨🇩 curly-haired_man 👨‍🦱 department_store 🏬",
   "desktop_computer 🖥 down-right_arrow ↘ downwards_button 🔽 exclamation_mark ❗",
   "face_with_tongue 😛 falkland_islands 🇫🇰 family_woman_boy 👩‍👦 fast_down_button ⏬",
   "flag_for_albania 🇦🇱 flag_for_algeria 🇩🇿 flag_for_andorra 🇦🇩 flag_for_armenia 🇦🇲",
   "flag_for_austria 🇦🇹 flag_for_bahamas 🇧🇸 flag_for_bahrain 🇧🇭 flag_for_belarus 🇧🇾",
   "flag_for_belgium 🇧🇪 flag_for_bermuda 🇧🇲 flag_for_bolivia 🇧🇴 flag_for_burundi 🇧🇮",
   "flag_for_comoros 🇰🇲 flag_for_croatia 🇭🇷 flag_for_curaçao 🇨🇼 flag_for_denmark 🇩🇰",
   "flag_for_ecuador 🇪🇨 flag_for_eritrea 🇪🇷 flag_for_estonia 🇪🇪 flag_for_finland 🇫🇮",
   "flag_for_georgia 🇬🇪 flag_for_germany 🇩🇪 flag_for_grenada 🇬🇩 flag_for_hungary 🇭🇺",
   "flag_for_iceland 🇮🇸 flag_for_ireland 🇮🇪 flag_for_jamaica 🇯🇲 flag_for_lebanon 🇱🇧",
   "flag_for_lesotho 🇱🇸 flag_for_liberia 🇱🇷 flag_for_mayotte 🇾🇹 flag_for_moldova 🇲🇩",
   "flag_for_morocco 🇲🇦 flag_for_myanmar 🇲🇲 flag_for_namibia 🇳🇦 flag_for_nigeria 🇳🇬",
   "flag_for_romania 🇷🇴 flag_for_réunion 🇷🇪 flag_for_senegal 🇸🇳 flag_for_somalia 🇸🇴",
   "flag_for_tokelau 🇹🇰 flag_for_tunisia 🇹🇳 flag_for_ukraine 🇺🇦 flag_for_uruguay 🇺🇾",
   "flag_for_vanuatu 🇻🇺 flag_for_vietnam 🇻🇳 four_leaf_clover 🍀 french_polynesia 🇵🇫",
   "grey_exclamation ❕ heart_decoration 💟 heart_with_arrow 💘 heavy_check_mark ✔",
   "heavy_minus_sign ➖ high-heeled_shoe 👠 high-speed_train 🚄 keycap_digit_one 1⃣",
   "keycap_digit_six 6⃣ keycap_digit_two 2⃣ kiss_woman_woman 👩‍❤️‍💋‍👩 kissing_cat_face 😽",
   "left-facing_fist 🤛 left-right_arrow ↔ left_right_arrow ↔ love-you_gesture 🤟",
   "man_cartwheeling 🤸‍♂️ man_gesturing_no 🙅‍♂️ man_gesturing_ok 🙆‍♂️ man_raising_hand 🙋‍♂️",
   "man_technologist 👨‍💻 man_tipping_hand 💁‍♂️ marshall_islands 🇲🇭 medium_skin_tone 🏽",
   "mobile_phone_off 📴 money-mouth_face 🤑 money_with_wings 💸 mountain_railway 🚞",
   "musical_keyboard 🎹 night_with_stars 🌃 no_mobile_phones 📵 open_file_folder 📂",
   "papua_new_guinea 🇵🇬 passport_control 🛂 people_wrestling 🤼 persevering_face 😣",
   "person_shrugging 🤷 person_with_ball ⛹ pitcairn_islands 🇵🇳 place_of_worship 🛐",
   "police_car_light 🚨 pouting_cat_face 😾 radioactive_sign ☢ recycling_symbol ♻",
   "red-haired_woman 👩‍🦰 revolving_hearts 💞 six_pointed_star 🔯 steam_locomotive 🚂",
   "stuck_out_tongue 😛 sun_behind_cloud ⛅ triangular_ruler 📐 tristan_da_cunha 🇹🇦",
   "upside-down_face 🙃 white-haired_man 👨‍🦳 white_check_mark ✅ admission_tickets 🎟",
   "airplane_arriving 🛬 american_football 🏈 antigua_&_barbuda 🇦🇬 arrow_double_down ⏬",
   "arrow_lower_right ↘ arrow_upper_right ↗ articulated_lorry 🚛 bullettrain_front 🚅",
   "camera_with_flash 📸 children_crossing 🚸 cityscape_at_dusk 🌆 clipperton_island 🇨🇵",
   "convenience_store 🏪 couple_with_heart 💑 cross_mark_button ❎ currency_exchange 💱",
   "disappointed_face 😞 double_curly_loop ➿ equatorial_guinea 🇬🇶 face_with_monocle 🧐",
   "family_woman_girl 👩‍👧 fire_extinguisher 🧯 flag_for_anguilla 🇦🇮 flag_for_barbados 🇧🇧",
   "flag_for_botswana 🇧🇼 flag_for_bulgaria 🇧🇬 flag_for_cambodia 🇰🇭 flag_for_cameroon 🇨🇲",
   "flag_for_colombia 🇨🇴 flag_for_djibouti 🇩🇯 flag_for_dominica 🇩🇲 flag_for_ethiopia 🇪🇹",
   "flag_for_guernsey 🇬🇬 flag_for_honduras 🇭🇳 flag_for_kiribati 🇰🇮 flag_for_malaysia 🇲🇾",
   "flag_for_maldives 🇲🇻 flag_for_mongolia 🇲🇳 flag_for_pakistan 🇵🇰 flag_for_paraguay 🇵🇾",
   "flag_for_portugal 🇵🇹 flag_for_slovakia 🇸🇰 flag_for_slovenia 🇸🇮 flag_for_suriname 🇸🇷",
   "flag_for_tanzania 🇹🇿 flag_for_thailand 🇹🇭 flag_for_zimbabwe 🇿🇼 grinning_cat_face 😺",
   "hammer_and_wrench 🛠 heart_with_ribbon 💝 heavy_dollar_sign 💲 house_with_garden 🏡",
   "incoming_envelope 📨 index_pointing_up ☝ keycap_digit_five 5⃣ keycap_digit_four 4⃣",
   "keycap_digit_nine 9⃣ keycap_digit_zero 0⃣ large_blue_circle 🔵 last_quarter_moon 🌗",
   "last_track_button ⏮ linked_paperclips 🖇 lock_with_ink_pen 🔏 lower_left_crayon 🖍",
   "mailbox_with_mail 📬 man_bouncing_ball ⛹️‍♂️ man_health_worker 👨‍⚕️ man_office_worker 👨‍💼",
   "mantelpiece_clock 🕰 manual_wheelchair 🦽 money__mouth_face 🤑 mountain_cableway 🚠",
   "next_track_button ⏭ non-potable_water 🚱 palms_up_together 🤲 racing_motorcycle 🏍",
   "red_paper_lantern 🏮 right-facing_fist 🤜 satellite_antenna 📡 sign_of_the_horns 🤘",
   "st._kitts_&_nevis 🇰🇳 star_and_crescent ☪ statue_of_liberty 🗽 studio_microphone 🎙",
   "stuffed_flatbread 🥙 tear-off_calendar 📆 trinidad_&_tobago 🇹🇹 upside__down_face 🙃",
   "waving_black_flag 🏴 waving_white_flag 🏳 wheelchair_symbol ♿ white_medium_star ⭐",
   "wind_blowing_face 🌬 woman_facepalming 🤦‍♀️ woman_firefighter 👩‍🚒 woman_rowing_boat 🚣‍♀️",
   "zipper-mouth_face 🤐 airplane_departure 🛫 arrow_heading_down ⤵ black_large_square ⬛",
   "black_small_square ▪ blond-haired_woman 👱‍♀️ boy_dark_skin_tone 👦🏿 bust_in_silhouette 👤",
   "classical_building 🏛 clinking_beer_mugs 🍻 cloud_with_tornado 🌪 curly-haired_woman 👩‍🦱",
   "diamond_with_a_dot 💠 dominican_republic 🇩🇴 ear_dark_skin_tone 👂🏿 eight-pointed_star ✴",
   "elf_dark_skin_tone 🧝🏿 face_savoring_food 😋 face_without_mouth 😶 family_man_boy_boy 👨‍👦‍👦",
   "family_man_man_boy 👨‍👨‍👦 first_quarter_moon 🌓 flag_for_argentina 🇦🇷 flag_for_australia 🇦🇺",
   "flag_for_gibraltar 🇬🇮 flag_for_greenland 🇬🇱 flag_for_guatemala 🇬🇹 flag_for_hong_kong 🇭🇰",
   "flag_for_indonesia 🇮🇩 flag_for_lithuania 🇱🇹 flag_for_macedonia 🇲🇰 flag_for_mauritius 🇲🇺",
   "flag_for_nicaragua 🇳🇮 flag_for_singapore 🇸🇬 flag_for_sri_lanka 🇱🇰 flag_for_st._lucia 🇱🇨",
   "flag_for_swaziland 🇸🇿 flag_for_venezuela 🇻🇪 frame_with_picture 🖼 heavy_large_circle ⭕",
   "hourglass_not_done ⏳ information_source ℹ keycap_digit_eight 8⃣ keycap_digit_seven 7⃣",
   "keycap_digit_three 3⃣ keycap_number_sign #⃣ large_blue_diamond 🔷 left_speech_bubble 🗨",
   "litter_in_bin_sign 🚮 loudly_crying_face 😭 mahjong_red_dragon 🀄 man_dark_skin_tone 👨🏿",
   "man_factory_worker 👨‍🏭 man_in_steamy_room 🧖‍♂️ man_police_officer 👮‍♂️",
   "man_wearing_turban 👳‍♂️ mountain_bicyclist 🚵 new_moon_with_face 🌚 non__potable_water 🚱",
   "one-piece_swimsuit 🩱 person_facepalming 🤦 person_rowing_boat 🚣 person_taking_bath 🛀",
   "right_anger_bubble 🗯 see-no-evil_monkey 🙈 small_blue_diamond 🔹 small_red_triangle 🔺",
   "speaker_low_volume 🔈 suspension_railway 🚟 telephone_receiver 📞 three_button_mouse 🖱",
   "umbrella_on_ground ⛱ white-haired_woman 👩‍🦳 white_large_square ⬜ white_small_square ▫",
   "woman_cartwheeling 🤸‍♀️ woman_gesturing_no 🙅‍♀️ woman_gesturing_ok 🙆‍♀️",
   "woman_raising_hand 🙋‍♀️ woman_technologist 👩‍💻 woman_tipping_hand 💁‍♀️ zipper__mouth_face 🤐",
   "baby_dark_skin_tone 👶🏿 beach_with_umbrella 🏖 black_medium_square ◼ black_square_button 🔲",
   "blond-haired_person 👱 boy_light_skin_tone 👦🏻 busts_in_silhouette 👥 card_index_dividers 🗂",
   "congo_-_brazzaville 🇨🇬 construction_worker 👷 double_vertical_bar ⏸ ear_light_skin_tone 👂🏻",
   "elf_light_skin_tone 🧝🏻 envelope_with_arrow 📩 expressionless_face 😑 face_blowing_a_kiss 😘",
   "family_man_girl_boy 👨‍👧‍👦 family_man_man_girl 👨‍👨‍👧 fast-forward_button ⏩",
   "fast_reverse_button ⏪ flag_for_antarctica 🇦🇶 flag_for_azerbaijan 🇦🇿 flag_for_bangladesh 🇧🇩",
   "flag_for_cape_verde 🇨🇻 flag_for_costa_rica 🇨🇷 flag_for_guadeloupe 🇬🇵 flag_for_kazakhstan 🇰🇿",
   "flag_for_kyrgyzstan 🇰🇬 flag_for_luxembourg 🇱🇺 flag_for_madagascar 🇲🇬 flag_for_martinique 🇲🇶",
   "flag_for_mauritania 🇲🇷 flag_for_micronesia 🇫🇲 flag_for_montenegro 🇲🇪 flag_for_montserrat 🇲🇸",
   "flag_for_mozambique 🇲🇿 flag_for_san_marino 🇸🇲 flag_for_seychelles 🇸🇨 flag_for_st._helena 🇸🇭",
   "flag_for_st._martin 🇲🇫 flag_for_tajikistan 🇹🇯 flag_for_uzbekistan 🇺🇿 full_moon_with_face 🌝",
   "girl_dark_skin_tone 👧🏿 hear-no-evil_monkey 🙉 heavy_division_sign ➗ hong_kong_sar_china 🇭🇰",
   "ideograph_advantage 🉐 input_latin_letters 🔤 kissing_closed_eyes 😚 mage_dark_skin_tone 🧙🏿",
   "man_getting_haircut 💇‍♂️ man_getting_massage 💆‍♂️ man_lifting_weights 🏋️‍♂️",
   "man_light_skin_tone 👨🏻 man_mountain_biking 🚵‍♂️ man_with_gua_pi_mao 👲",
   "men_with_bunny_ears 👯‍♂️ nose_dark_skin_tone 👃🏿 oncoming_automobile 🚘 oncoming_police_car 🚔",
   "person_cartwheeling 🤸 person_gesturing_no 🙅 person_gesturing_ok 🙆 person_raising_hand 🙋",
   "person_tipping_hand 💁 raised_back_of_hand 🤚 rolled-up_newspaper 🗞 shallow_pan_of_food 🥘",
   "speaker_high_volume 🔊 spiral_calendar_pad 🗓 são_tomé_&_príncipe 🇸🇹 u.s._virgin_islands 🇻🇮",
   "waning_gibbous_moon 🌖 waxing_gibbous_moon 🌔 white_frowning_face ☹ white_medium_square ◻",
   "white_question_mark ❔ white_square_button 🔳 woman_bouncing_ball ⛹️‍♀️",
   "woman_health_worker 👩‍⚕️ woman_office_worker 👩‍💼 adult_dark_skin_tone 🧑🏿",
   "baby_light_skin_tone 👶🏻 bosnia_&_herzegovina 🇧🇦 boy_medium_skin_tone 👦🏽",
   "child_dark_skin_tone 🧒🏿 closed_lock_with_key 🔐 cloud_with_lightning 🌩 cricket_bat_and_ball 🏏",
   "ear_medium_skin_tone 👂🏽 ear_with_hearing_aid 🦻 elf_medium_skin_tone 🧝🏽",
   "european_post_office 🏤 eye_in_speech_bubble 👁️‍🗨️ face_with_open_mouth 😮",
   "fairy_dark_skin_tone 🧚🏿 family_man_girl_girl 👨‍👧‍👧 family_man_woman_boy 👨‍👩‍👦",
   "family_woman_boy_boy 👩‍👦‍👦 fish_cake_with_swirl 🍥 flag_for_afghanistan 🇦🇫",
   "flag_for_el_salvador 🇸🇻 flag_for_isle_of_man 🇮🇲 flag_for_netherlands 🇳🇱",
   "flag_for_new_zealand 🇳🇿 flag_for_north_korea 🇰🇵 flag_for_philippines 🇵🇭",
   "flag_for_puerto_rico 🇵🇷 flag_for_south_korea 🇰🇷 flag_for_south_sudan 🇸🇸",
   "flag_for_switzerland 🇨🇭 flower_playing_cards 🎴 girl_light_skin_tone 👧🏻",
   "globe_with_meridians 🌐 guard_dark_skin_tone 💂🏿 japanese_here_button 🈁 japanese_post_office 🏣",
   "kissing_smiling_eyes 😙 large_orange_diamond 🔶 mage_light_skin_tone 🧙🏻 mailbox_with_no_mail 📭",
   "man_medium_skin_tone 👨🏽 man_playing_handball 🤾‍♂️ man_with_chinese_cap 👲",
   "martial_arts_uniform 🥋 motorized_wheelchair 🦼 nose_light_skin_tone 👃🏻",
   "people_holding_hands 🧑‍🤝‍🧑 person_bouncing_ball ⛹ play_or_pause_button ⏯",
   "regional_indicator_a 🇦 regional_indicator_b 🇧 regional_indicator_c 🇨 regional_indicator_d 🇩",
   "regional_indicator_e 🇪 regional_indicator_f 🇫 regional_indicator_g 🇬 regional_indicator_h 🇭",
   "regional_indicator_i 🇮 regional_indicator_j 🇯 regional_indicator_k 🇰 regional_indicator_l 🇱",
   "regional_indicator_m 🇲 regional_indicator_n 🇳 regional_indicator_o 🇴 regional_indicator_p 🇵",
   "regional_indicator_q 🇶 regional_indicator_r 🇷 regional_indicator_s 🇸 regional_indicator_t 🇹",
   "regional_indicator_u 🇺 regional_indicator_v 🇻 regional_indicator_w 🇼 regional_indicator_x 🇽",
   "regional_indicator_y 🇾 regional_indicator_z 🇿 repeat_single_button 🔂 roasted_sweet_potato 🍠",
   "rolled__up_newspaper 🗞 skull_and_crossbones ☠ small_orange_diamond 🔸 snow-capped_mountain 🏔",
   "snow_capped_mountain 🏔 snowman_without_snow ⛄ speak-no-evil_monkey 🙊 svalbard_&_jan_mayen 🇸🇯",
   "united_arab_emirates 🇦🇪 waning_crescent_moon 🌘 waxing_crescent_moon 🌒",
   "woman_dark_skin_tone 👩🏿 woman_factory_worker 👩‍🏭 woman_in_steamy_room 🧖‍♀️",
   "woman_police_officer 👮‍♀️ woman_wearing_turban 👳‍♀️ woman_with_headscarf 🧕",
   "a_button_(blood_type) 🅰 adult_light_skin_tone 🧑🏻 angry_face_with_horns 👿",
   "b_button_(blood_type) 🅱 baby_medium_skin_tone 👶🏽 ballot_box_with_check ☑",
   "black_square_for_stop ⏹ building_construction 🏗 caribbean_netherlands 🇧🇶",
   "child_light_skin_tone 🧒🏻 disappointed_relieved 😥 eight-spoked_asterisk ✳",
   "eight_spoked_asterisk ✳ face_with_thermometer 🤒 fairy_light_skin_tone 🧚🏻",
   "family_man_woman_girl 👨‍👩‍👧 family_woman_girl_boy 👩‍👧‍👦 fishing_pole_and_fish 🎣",
   "flag_for_burkina_faso 🇧🇫 flag_for_cook_islands 🇨🇰 flag_for_diego_garcia 🇩🇬",
   "flag_for_saudi_arabia 🇸🇦 flag_for_sierra_leone 🇸🇱 flag_for_sint_maarten 🇸🇽",
   "flag_for_south_africa 🇿🇦 flag_for_timor__leste 🇹🇱 flag_for_turkmenistan 🇹🇲",
   "flag_for_vatican_city 🇻🇦 girl_medium_skin_tone 👧🏽 guard_light_skin_tone 💂🏻",
   "input_latin_lowercase 🔡 input_latin_uppercase 🔠 lower_left_paintbrush 🖌",
   "mage_medium_skin_tone 🧙🏽 man_in_lotus_position 🧘‍♂️ man_with_probing_cane 👨‍🦯",
   "medium_dark_skin_tone 🏾 merman_dark_skin_tone 🧜🏿‍♂️ moon_viewing_ceremony 🎑",
   "no_one_under_eighteen 🔞 nose_medium_skin_tone 👃🏽 o_button_(blood_type) 🅾",
   "part_alternation_mark 〽 person_in_steamy_room 🧖 person_wearing_turban 👳",
   "prince_dark_skin_tone 🤴🏿 sad_but_relieved_face 😥 selfie_dark_skin_tone 🤳🏿",
   "shuffle_tracks_button 🔀 slightly_smiling_face 🙂 speaker_medium_volume 🔉",
   "sport_utility_vehicle 🚙 st._pierre_&_miquelon 🇵🇲 sun_behind_rain_cloud 🌦",
   "teacup_without_handle 🍵 two_men_holding_hands 👬 u.s._outlying_islands 🇺🇲",
   "woman_getting_haircut 💇‍♀️ woman_getting_massage 💆‍♀️ woman_lifting_weights 🏋️‍♀️",
   "woman_light_skin_tone 👩🏻 woman_mountain_biking 🚵‍♀️ women_with_bunny_ears 👯‍♀️",
   "ab_button_(blood_type) 🆎 adult_medium_skin_tone 🧑🏽 ballot_box_with_ballot 🗳",
   "british_virgin_islands 🇻🇬 child_medium_skin_tone 🧒🏽 face_screaming_in_fear 😱",
   "face_with_head-bandage 🤕 face_with_medical_mask 😷 face_with_rolling_eyes 🙄",
   "face_with_tears_of_joy 😂 fairy_medium_skin_tone 🧚🏽 family_man_man_boy_boy 👨‍👨‍👦‍👦",
   "family_woman_girl_girl 👩‍👧‍👧 family_woman_woman_boy 👩‍👩‍👦 flag_for_bouvet_island 🇧🇻",
   "flag_for_côte_d’ivoire 🇨🇮 flag_for_faroe_islands 🇫🇴 flag_for_french_guiana 🇬🇫",
   "flag_for_liechtenstein 🇱🇮 flag_for_new_caledonia 🇳🇨 flag_for_united_states 🇺🇸",
   "flag_for_åland_islands 🇦🇽 globe_showing_americas 🌎 guard_medium_skin_tone 💂🏽",
   "heavy_exclamation_mark ❗ heavy_multiplication_x ✖ hourglass_flowing_sand ⏳",
   "japanese_secret_button ㊙ last_quarter_moon_face 🌜 man_elf_dark_skin_tone 🧝🏿‍♂️",
   "man_in_suit_levitating 🕴 man_playing_water_polo 🤽‍♂️ medium_light_skin_tone 🏼",
   "mermaid_dark_skin_tone 🧜🏿‍♀️ merman_light_skin_tone 🧜🏻‍♂️ ok_hand_dark_skin_tone 👌🏿",
   "old_man_dark_skin_tone 👴🏿 people_with_bunny_ears 👯 person_getting_haircut 💇",
   "person_getting_massage 💆 person_lifting_weights 🏋 person_mountain_biking 🚵",
   "person_with_blond_hair 👱 prince_light_skin_tone 🤴🏻 rescue_worker’s_helmet ⛑",
   "right_arrow_curving_up ⤴ selfie_light_skin_tone 🤳🏻 sleeping_accommodation 🛌",
   "slightly_frowning_face 🙁 smiling_face_with_halo 😇 sun_behind_large_cloud 🌥",
   "sun_behind_small_cloud 🌤 sunrise_over_mountains 🌄 thunder_cloud_and_rain ⛈",
   "turks_&_caicos_islands 🇹🇨 vampire_dark_skin_tone 🧛🏿 vertical_traffic_light 🚦",
   "white_exclamation_mark ❕ white_heavy_check_mark ✅ white_sun_behind_cloud 🌥",
   "woman_medium_skin_tone 👩🏽 woman_playing_handball 🤾‍♀️ anxious_face_with_sweat 😰",
   "arrows_counterclockwise 🔄 black_circle_for_record ⏺ cat_face_with_wry_smile 😼",
   "cocos_(keeling)_islands 🇨🇨 derelict_house_building 🏚 dotted_six-pointed_star 🔯",
   "double_exclamation_mark ‼ face_with_head__bandage 🤕 family_man_man_girl_boy 👨‍👨‍👧‍👦",
   "family_woman_woman_girl 👩‍👩‍👧 first_quarter_moon_face 🌛 flag_for_american_samoa 🇦🇸",
   "flag_for_canary_islands 🇮🇨 flag_for_cayman_islands 🇰🇾 flag_for_cocos__islands 🇨🇨",
   "flag_for_czech_republic 🇨🇿 flag_for_european_union 🇪🇺 flag_for_guinea__bissau 🇬🇼",
   "flag_for_norfolk_island 🇳🇫 flag_for_st._barthélemy 🇧🇱 flag_for_united_kingdom 🇬🇧",
   "flag_for_western_sahara 🇪🇭 front-facing_baby_chick 🐥 grinning_squinting_face 😆",
   "heavy_heart_exclamation ❣ helmet_with_white_cross ⛑ information_desk_person 💁",
   "japanese_bargain_button 🉐 japanese_vacancy_button 🈳 leaf_fluttering_in_wind 🍃",
   "lower_left_fountain_pen 🖋 man_construction_worker 👷‍♂️ man_cook_dark_skin_tone 👨🏿‍🍳",
   "man_elf_light_skin_tone 🧝🏻‍♂️ man_mage_dark_skin_tone 🧙🏿‍♂️ mermaid_light_skin_tone 🧜🏻‍♀️",
   "merman_medium_skin_tone 🧜🏽‍♂️ mobile_phone_with_arrow 📲 ok_hand_light_skin_tone 👌🏻",
   "old_man_light_skin_tone 👴🏻 palestinian_territories 🇵🇸 person_playing_handball 🤾",
   "prince_medium_skin_tone 🤴🏽 princess_dark_skin_tone 👸🏿 put_litter_in_its_place 🚮",
   "red_triangle_pointed_up 🔺 running_shirt_with_sash 🎽 selfie_medium_skin_tone 🤳🏽",
   "small_red_triangle_down 🔻 smiling_face_with_horns 😈 triangular_flag_on_post 🚩",
   "two_women_holding_hands 👭 vampire_light_skin_tone 🧛🏻 woman_in_lotus_position 🧘‍♀️",
   "woman_with_probing_cane 👩‍🦯 bottle_with_popping_cork 🍾 central_african_republic 🇨🇫",
   "chart_with_upwards_trend 📈 detective_dark_skin_tone 🕵🏿 downcast_face_with_sweat 😓",
   "eight_pointed_black_star ✴ face_with_raised_eyebrow 🤨 family_man_man_girl_girl 👨‍👨‍👧‍👧",
   "family_man_woman_boy_boy 👨‍👩‍👦‍👦 flag_for_ceuta_&_melilla 🇪🇦 flag_for_solomon_islands 🇸🇧",
   "flag_for_wallis_&_futuna 🇼🇫 grinning_face_with_sweat 😅 heard_&_mcdonald_islands 🇭🇲",
   "horizontal_traffic_light 🚥 japanese_discount_button 🈹 japanese_reserved_button 🈯",
   "left_arrow_curving_right ↪ lower_left_ballpoint_pen 🖊 man_cook_light_skin_tone 👨🏻‍🍳",
   "man_elf_medium_skin_tone 🧝🏽‍♂️ man_fairy_dark_skin_tone 🧚🏿‍♂️ man_guard_dark_skin_tone 💂🏿‍♂️",
   "man_in_manual_wheelchair 👨‍🦽 man_judge_dark_skin_tone 👨🏿‍⚖️ man_mage_light_skin_tone 🧙🏻‍♂️",
   "man_pilot_dark_skin_tone 👨🏿‍✈️ mermaid_medium_skin_tone 🧜🏽‍♀️ merperson_dark_skin_tone 🧜🏿",
   "northern_mariana_islands 🇲🇵 ok_hand_medium_skin_tone 👌🏽 old_man_medium_skin_tone 👴🏽",
   "old_woman_dark_skin_tone 👵🏿 person_in_lotus_position 🧘 person_with_pouting_face 🙎",
   "princess_light_skin_tone 👸🏻 right_arrow_curving_down ⤵ right_arrow_curving_left ↩",
   "st._vincent_&_grenadines 🇻🇨 thumbs_up_dark_skin_tone 👍🏿 umbrella_with_rain_drops ☔",
   "vampire_medium_skin_tone 🧛🏽 winking_face_with_tongue 😜 woman_elf_dark_skin_tone 🧝🏿‍♀️",
   "woman_playing_water_polo 🤽‍♀️ baby_angel_dark_skin_tone 👼🏿 black_medium-small_square ◾",
   "black_medium_small_square ◾ boy_medium-dark_skin_tone 👦🏾 chart_increasing_with_yen 💹",
   "clockwise_vertical_arrows 🔃 couple_with_heart_man_man 👨‍❤️‍👨 detective_light_skin_tone 🕵🏻",
   "ear_medium-dark_skin_tone 👂🏾 elf_medium-dark_skin_tone 🧝🏾 exclamation_question_mark ⁉",
   "face_with_hand_over_mouth 🤭 face_with_steam_from_nose 😤 family_man_woman_girl_boy 👨‍👩‍👧‍👦",
   "flag_for_ascension_island 🇦🇨 flag_for_christmas_island 🇨🇽 flag_for_falkland_islands 🇫🇰",
   "flag_for_french_polynesia 🇵🇫 flag_for_marshall_islands 🇲🇭 flag_for_papua_new_guinea 🇵🇬",
   "flag_for_pitcairn_islands 🇵🇳 flag_for_tristan_da_cunha 🇹🇦 fork_and_knife_with_plate 🍽",
   "hand_with_fingers_splayed 🖐 ice_hockey_stick_and_puck 🏒 leftwards_arrow_with_hook ↩",
   "man_artist_dark_skin_tone 👨🏿‍🎨 man_biking_dark_skin_tone 🚴🏿‍♂️",
   "man_bowing_dark_skin_tone 🙇🏿‍♂️ man_cook_medium_skin_tone 👨🏽‍🍳",
   "man_fairy_light_skin_tone 🧚🏻‍♂️ man_farmer_dark_skin_tone 👨🏿‍🌾",
   "man_guard_light_skin_tone 💂🏻‍♂️ man_judge_light_skin_tone 👨🏻‍⚖️",
   "man_mage_medium_skin_tone 🧙🏽‍♂️ man_medium-dark_skin_tone 👨🏾 man_pilot_light_skin_tone 👨🏻‍✈️",
   "man_singer_dark_skin_tone 👨🏿‍🎤 merperson_light_skin_tone 🧜🏻 mrs._claus_dark_skin_tone 🤶🏿",
   "old_woman_light_skin_tone 👵🏻 open_hands_dark_skin_tone 👐🏿 person_playing_water_polo 🤽",
   "princess_medium_skin_tone 👸🏽 red_triangle_pointed_down 🔻 thumbs_up_light_skin_tone 👍🏻",
   "twisted_rightwards_arrows 🔀 white_medium-small_square ◽ white_medium_small_square ◽",
   "woman_construction_worker 👷‍♀️ woman_cook_dark_skin_tone 👩🏿‍🍳",
   "woman_elf_light_skin_tone 🧝🏻‍♀️ woman_mage_dark_skin_tone 🧙🏿‍♀️",
   "baby_angel_light_skin_tone 👼🏻 baby_medium-dark_skin_tone 👶🏾 backhand_index_pointing_up 👆",
   "boy_medium-light_skin_tone 👦🏼 cat_face_with_tears_of_joy 😹 chart_with_downwards_trend 📉",
   "detective_medium_skin_tone 🕵🏽 ear_medium-light_skin_tone 👂🏼 elf_medium-light_skin_tone 🧝🏼",
   "face_with_symbols_on_mouth 🤬 family_man_woman_girl_girl 👨‍👩‍👧‍👧",
   "family_woman_woman_boy_boy 👩‍👩‍👦‍👦 flag_for_antigua_&_barbuda 🇦🇬",
   "flag_for_clipperton_island 🇨🇵 flag_for_congo____kinshasa 🇨🇩 flag_for_equatorial_guinea 🇬🇶",
   "flag_for_st._kitts_&_nevis 🇰🇳 flag_for_trinidad_&_tobago 🇹🇹 girl_medium-dark_skin_tone 👧🏾",
   "japanese_acceptable_button 🉑 japanese_no_vacancy_button 🈵 japanese_prohibited_button 🈲",
   "mage_medium-dark_skin_tone 🧙🏾 man_artist_light_skin_tone 👨🏻‍🎨",
   "man_biking_light_skin_tone 🚴🏻‍♂️ man_bowing_light_skin_tone 🙇🏻‍♂️",
   "man_dancing_dark_skin_tone 🕺🏿 man_fairy_medium_skin_tone 🧚🏽‍♂️",
   "man_farmer_light_skin_tone 👨🏻‍🌾 man_golfing_dark_skin_tone 🏌🏿‍♂️",
   "man_guard_medium_skin_tone 💂🏽‍♂️ man_judge_medium_skin_tone 👨🏽‍⚖️",
   "man_medium-light_skin_tone 👨🏼 man_pilot_medium_skin_tone 👨🏽‍✈️",
   "man_pouting_dark_skin_tone 🙎🏿‍♂️ man_running_dark_skin_tone 🏃🏿‍♂️",
   "man_singer_light_skin_tone 👨🏻‍🎤 man_student_dark_skin_tone 👨🏿‍🎓",
   "man_surfing_dark_skin_tone 🏄🏿‍♂️ man_teacher_dark_skin_tone 👨🏿‍🏫",
   "man_vampire_dark_skin_tone 🧛🏿‍♂️ man_walking_dark_skin_tone 🚶🏿‍♂️",
   "menorah_with_nine_branches 🕎 merperson_medium_skin_tone 🧜🏽 mrs._claus_light_skin_tone 🤶🏻",
   "nail_polish_dark_skin_tone 💅🏿 nose_medium-dark_skin_tone 👃🏾 old_woman_medium_skin_tone 👵🏽",
   "older_adult_dark_skin_tone 🧓🏿 open_hands_light_skin_tone 👐🏻 raised_fist_dark_skin_tone ✊🏿",
   "raised_hand_dark_skin_tone ✋🏿 santa_claus_dark_skin_tone 🎅🏿 smiling_face_with_3_hearts 🥰",
   "snowboarder_dark_skin_tone 🏂🏿 squinting_face_with_tongue 😝 thumbs_down_dark_skin_tone 👎🏿",
   "thumbs_up_medium_skin_tone 👍🏽 waving_hand_dark_skin_tone 👋🏿 white_sun_with_small_cloud 🌤",
   "woman_cook_light_skin_tone 👩🏻‍🍳 woman_elf_medium_skin_tone 🧝🏽‍♀️",
   "woman_fairy_dark_skin_tone 🧚🏿‍♀️ woman_guard_dark_skin_tone 💂🏿‍♀️",
   "woman_in_manual_wheelchair 👩‍🦽 woman_judge_dark_skin_tone 👩🏿‍⚖️",
   "woman_mage_light_skin_tone 🧙🏻‍♀️ woman_pilot_dark_skin_tone 👩🏿‍✈️",
   "adult_medium-dark_skin_tone 🧑🏾 baby_angel_medium_skin_tone 👼🏽 baby_medium-light_skin_tone 👶🏼",
   "call_me_hand_dark_skin_tone 🤙🏿 child_medium-dark_skin_tone 🧒🏾",
   "couple_with_heart_woman_man 👩‍❤️‍👨 fairy_medium-dark_skin_tone 🧚🏾",
   "family_woman_woman_girl_boy 👩‍👩‍👧‍👦 field_hockey_stick_and_ball 🏑",
   "flag_for_dominican_republic 🇩🇴 folded_hands_dark_skin_tone 🙏🏿 french_southern_territories 🇹🇫",
   "girl_medium-light_skin_tone 👧🏼 globe_showing_europe-africa 🌍 grinning_face_with_big_eyes 😃",
   "guard_medium-dark_skin_tone 💂🏾 horse_racing_dark_skin_tone 🏇🏿 japanese_application_button 🈸",
   "last_quarter_moon_with_face 🌜 mage_medium-light_skin_tone 🧙🏼 man_and_woman_holding_hands 👫",
   "man_artist_medium_skin_tone 👨🏽‍🎨 man_biking_medium_skin_tone 🚴🏽‍♂️",
   "man_bowing_medium_skin_tone 🙇🏽‍♂️ man_climbing_dark_skin_tone 🧗🏿‍♂️",
   "man_dancing_light_skin_tone 🕺🏻 man_farmer_medium_skin_tone 👨🏽‍🌾",
   "man_frowning_dark_skin_tone 🙍🏿‍♂️ man_golfing_light_skin_tone 🏌🏻‍♂️",
   "man_in_motorized_wheelchair 👨‍🦼 man_juggling_dark_skin_tone 🤹🏿‍♂️",
   "man_mechanic_dark_skin_tone 👨🏿‍🔧 man_pouting_light_skin_tone 🙎🏻‍♂️",
   "man_running_light_skin_tone 🏃🏻‍♂️ man_singer_medium_skin_tone 👨🏽‍🎤",
   "man_student_light_skin_tone 👨🏻‍🎓 man_surfing_light_skin_tone 🏄🏻‍♂️",
   "man_swimming_dark_skin_tone 🏊🏿‍♂️ man_teacher_light_skin_tone 👨🏻‍🏫",
   "man_vampire_light_skin_tone 🧛🏻‍♂️ man_walking_light_skin_tone 🚶🏻‍♂️",
   "mrs._claus_medium_skin_tone 🤶🏽 nail_polish_light_skin_tone 💅🏻 negative_squared_cross_mark ❎",
   "nose_medium-light_skin_tone 👃🏼 older_adult_light_skin_tone 🧓🏻 open_hands_medium_skin_tone 👐🏽",
   "raised_fist_light_skin_tone ✊🏻 raised_hand_light_skin_tone ✋🏻 santa_claus_light_skin_tone 🎅🏻",
   "snowboarder_light_skin_tone 🏂🏻 speaking_head_in_silhouette 🗣 thumbs_down_light_skin_tone 👎🏻",
   "victory_hand_dark_skin_tone ✌🏿 waving_hand_light_skin_tone 👋🏻",
   "woman_artist_dark_skin_tone 👩🏿‍🎨 woman_biking_dark_skin_tone 🚴🏿‍♀️",
   "woman_bowing_dark_skin_tone 🙇🏿‍♀️ woman_cook_medium_skin_tone 👩🏽‍🍳",
   "woman_fairy_light_skin_tone 🧚🏻‍♀️ woman_farmer_dark_skin_tone 👩🏿‍🌾",
   "woman_guard_light_skin_tone 💂🏻‍♀️ woman_judge_light_skin_tone 👩🏻‍⚖️",
   "woman_mage_medium_skin_tone 🧙🏽‍♀️ woman_medium-dark_skin_tone 👩🏾",
   "woman_pilot_light_skin_tone 👩🏻‍✈️ woman_singer_dark_skin_tone 👩🏿‍🎤",
   "writing_hand_dark_skin_tone ✍🏿 adult_medium-light_skin_tone 🧑🏼",
   "backhand_index_pointing_down 👇 backhand_index_pointing_left 👈",
   "call_me_hand_light_skin_tone 🤙🏻 child_medium-light_skin_tone 🧒🏼",
   "fairy_medium-light_skin_tone 🧚🏼 family_woman_woman_girl_girl 👩‍👩‍👧‍👧",
   "first_quarter_moon_with_face 🌛 flag_for_são_tomé_&_príncipe 🇸🇹",
   "flag_for_u.s._virgin_islands 🇻🇮 flexed_biceps_dark_skin_tone 💪🏿",
   "folded_hands_light_skin_tone 🙏🏻 globe_showing_asia-australia 🌏",
   "guard_medium-light_skin_tone 💂🏼 horse_racing_light_skin_tone 🏇🏻",
   "japanese_symbol_for_beginner 🔰 magnifying_glass_tilted_left 🔍",
   "man_astronaut_dark_skin_tone 👨🏿‍🚀 man_climbing_light_skin_tone 🧗🏻‍♂️",
   "man_dancing_medium_skin_tone 🕺🏽 man_detective_dark_skin_tone 🕵🏿‍♂️",
   "man_frowning_light_skin_tone 🙍🏻‍♂️ man_golfing_medium_skin_tone 🏌🏽‍♂️",
   "man_in_tuxedo_dark_skin_tone 🤵🏿 man_juggling_light_skin_tone 🤹🏻‍♂️",
   "man_mechanic_light_skin_tone 👨🏻‍🔧 man_pouting_medium_skin_tone 🙎🏽‍♂️",
   "man_running_medium_skin_tone 🏃🏽‍♂️ man_scientist_dark_skin_tone 👨🏿‍🔬",
   "man_shrugging_dark_skin_tone 🤷🏿‍♂️ man_student_medium_skin_tone 👨🏽‍🎓",
   "man_surfing_medium_skin_tone 🏄🏽‍♂️ man_swimming_light_skin_tone 🏊🏻‍♂️",
   "man_teacher_medium_skin_tone 👨🏽‍🏫 man_vampire_medium_skin_tone 🧛🏽‍♂️",
   "man_walking_medium_skin_tone 🚶🏽‍♂️ merman_medium-dark_skin_tone 🧜🏾‍♂️",
   "middle_finger_dark_skin_tone 🖕🏿 nail_polish_medium_skin_tone 💅🏽",
   "older_adult_medium_skin_tone 🧓🏽 oncoming_fist_dark_skin_tone 👊🏿",
   "person_biking_dark_skin_tone 🚴🏿 person_bowing_dark_skin_tone 🙇🏿",
   "person_in_bed_dark_skin_tone 🛌🏿 prince_medium-dark_skin_tone 🤴🏾",
   "raised_fist_medium_skin_tone ✊🏽 raised_hand_medium_skin_tone ✋🏽",
   "raising_hands_dark_skin_tone 🙌🏿 santa_claus_medium_skin_tone 🎅🏽",
   "selfie_medium-dark_skin_tone 🤳🏾 smiling_face_with_heart-eyes 😍",
   "smiling_face_with_sunglasses 😎 snowboarder_medium_skin_tone 🏂🏽",
   "stuck_out_tongue_closed_eyes 😝 stuck_out_tongue_winking_eye 😜 table_tennis_paddle_and_ball 🏓",
   "thumbs_down_medium_skin_tone 👎🏽 victory_hand_light_skin_tone ✌🏻",
   "vulcan_salute_dark_skin_tone 🖖🏿 waving_hand_medium_skin_tone 👋🏽",
   "woman_artist_light_skin_tone 👩🏻‍🎨 woman_biking_light_skin_tone 🚴🏻‍♀️",
   "woman_bowing_light_skin_tone 🙇🏻‍♀️ woman_dancing_dark_skin_tone 💃🏿",
   "woman_fairy_medium_skin_tone 🧚🏽‍♀️ woman_farmer_light_skin_tone 👩🏻‍🌾",
   "woman_golfing_dark_skin_tone 🏌🏿‍♀️ woman_guard_medium_skin_tone 💂🏽‍♀️",
   "woman_judge_medium_skin_tone 👩🏽‍⚖️ woman_medium-light_skin_tone 👩🏼",
   "woman_pilot_medium_skin_tone 👩🏽‍✈️ woman_pouting_dark_skin_tone 🙎🏿‍♀️",
   "woman_running_dark_skin_tone 🏃🏿‍♀️ woman_singer_light_skin_tone 👩🏻‍🎤",
   "woman_student_dark_skin_tone 👩🏿‍🎓 woman_surfing_dark_skin_tone 🏄🏿‍♀️",
   "woman_teacher_dark_skin_tone 👩🏿‍🏫 woman_vampire_dark_skin_tone 🧛🏿‍♀️",
   "woman_walking_dark_skin_tone 🚶🏿‍♀️ writing_hand_light_skin_tone ✍🏻",
   "backhand_index_pointing_right 👉 bearded_person_dark_skin_tone 🧔🏿",
   "breast-feeding_dark_skin_tone 🤱🏿 call_me_hand_medium_skin_tone 🤙🏽",
   "clapping_hands_dark_skin_tone 👏🏿 cloud_with_lightning_and_rain ⛈",
   "couple_with_heart_woman_woman 👩‍❤️‍👩 flag_for_bosnia_&_herzegovina 🇧🇦",
   "flag_for_congo____brazzaville 🇨🇬 flag_for_svalbard_&_jan_mayen 🇸🇯",
   "flag_for_united_arab_emirates 🇦🇪 flexed_biceps_light_skin_tone 💪🏻",
   "folded_hands_medium_skin_tone 🙏🏽 frowning_face_with_open_mouth 😦",
   "horse_racing_medium_skin_tone 🏇🏽 japanese_passing_grade_button 🈴",
   "kissing_face_with_closed_eyes 😚 magnifying_glass_tilted_right 🔎",
   "man_astronaut_light_skin_tone 👨🏻‍🚀 man_climbing_medium_skin_tone 🧗🏽‍♂️",
   "man_detective_light_skin_tone 🕵🏻‍♂️ man_elf_medium-dark_skin_tone 🧝🏾‍♂️",
   "man_frowning_medium_skin_tone 🙍🏽‍♂️ man_in_tuxedo_light_skin_tone 🤵🏻",
   "man_juggling_medium_skin_tone 🤹🏽‍♂️ man_mechanic_medium_skin_tone 👨🏽‍🔧",
   "man_scientist_light_skin_tone 👨🏻‍🔬 man_shrugging_light_skin_tone 🤷🏻‍♂️",
   "man_swimming_medium_skin_tone 🏊🏽‍♂️ mermaid_medium-dark_skin_tone 🧜🏾‍♀️",
   "merman_medium-light_skin_tone 🧜🏼‍♂️ middle_finger_light_skin_tone 🖕🏻",
   "ok_hand_medium-dark_skin_tone 👌🏾 old_man_medium-dark_skin_tone 👴🏾",
   "oncoming_fist_light_skin_tone 👊🏻 open_mailbox_with_raised_flag 📬",
   "person_biking_light_skin_tone 🚴🏻 person_bowing_light_skin_tone 🙇🏻",
   "person_golfing_dark_skin_tone 🏌🏿 person_in_bed_light_skin_tone 🛌🏻",
   "person_pouting_dark_skin_tone 🙎🏿 person_running_dark_skin_tone 🏃🏿",
   "person_surfing_dark_skin_tone 🏄🏿 person_walking_dark_skin_tone 🚶🏿",
   "police_officer_dark_skin_tone 👮🏿 pregnant_woman_dark_skin_tone 🤰🏿",
   "prince_medium-light_skin_tone 🤴🏼 raising_hands_light_skin_tone 🙌🏻",
   "rolling_on_the_floor_laughing 🤣 selfie_medium-light_skin_tone 🤳🏼",
   "vampire_medium-dark_skin_tone 🧛🏾 victory_hand_medium_skin_tone ✌🏽",
   "vulcan_salute_light_skin_tone 🖖🏻 woman_artist_medium_skin_tone 👩🏽‍🎨",
   "woman_biking_medium_skin_tone 🚴🏽‍♀️ woman_bowing_medium_skin_tone 🙇🏽‍♀️",
   "woman_climbing_dark_skin_tone 🧗🏿‍♀️ woman_dancing_light_skin_tone 💃🏻",
   "woman_farmer_medium_skin_tone 👩🏽‍🌾 woman_frowning_dark_skin_tone 🙍🏿‍♀️",
   "woman_golfing_light_skin_tone 🏌🏻‍♀️ woman_in_motorized_wheelchair 👩‍🦼",
   "woman_juggling_dark_skin_tone 🤹🏿‍♀️ woman_mechanic_dark_skin_tone 👩🏿‍🔧",
   "woman_pouting_light_skin_tone 🙎🏻‍♀️ woman_running_light_skin_tone 🏃🏻‍♀️",
   "woman_singer_medium_skin_tone 👩🏽‍🎤 woman_student_light_skin_tone 👩🏻‍🎓",
   "woman_surfing_light_skin_tone 🏄🏻‍♀️ woman_swimming_dark_skin_tone 🏊🏿‍♀️",
   "woman_teacher_light_skin_tone 👩🏻‍🏫 woman_vampire_light_skin_tone 🧛🏻‍♀️",
   "woman_walking_light_skin_tone 🚶🏻‍♀️ writing_hand_medium_skin_tone ✍🏽",
   "beaming_face_with_smiling_eyes 😁 bearded_person_light_skin_tone 🧔🏻",
   "breast-feeding_light_skin_tone 🤱🏻 bride_with_veil_dark_skin_tone 👰🏿",
   "british_indian_ocean_territory 🇮🇴 clapping_hands_light_skin_tone 👏🏻",
   "counterclockwise_arrows_button 🔄 crossed_fingers_dark_skin_tone 🤞🏿",
   "flag_for_caribbean_netherlands 🇧🇶 flag_for_st._pierre_&_miquelon 🇵🇲",
   "flag_for_u.s._outlying_islands 🇺🇲 flexed_biceps_medium_skin_tone 💪🏽",
   "japanese_free_of_charge_button 🈚 japanese_monthly_amount_button 🈷",
   "japanese_service_charge_button 🈂 kissing_face_with_smiling_eyes 😙",
   "man_astronaut_medium_skin_tone 👨🏽‍🚀 man_cook_medium-dark_skin_tone 👨🏾‍🍳",
   "man_detective_medium_skin_tone 🕵🏽‍♂️ man_elf_medium-light_skin_tone 🧝🏼‍♂️",
   "man_facepalming_dark_skin_tone 🤦🏿‍♂️ man_firefighter_dark_skin_tone 👨🏿‍🚒",
   "man_in_tuxedo_medium_skin_tone 🤵🏽 man_mage_medium-dark_skin_tone 🧙🏾‍♂️",
   "man_rowing_boat_dark_skin_tone 🚣🏿‍♂️ man_scientist_medium_skin_tone 👨🏽‍🔬",
   "man_shrugging_medium_skin_tone 🤷🏽‍♂️ mermaid_medium-light_skin_tone 🧜🏼‍♀️",
   "middle_finger_medium_skin_tone 🖕🏽 notebook_with_decorative_cover 📔",
   "ok_hand_medium-light_skin_tone 👌🏼 old_man_medium-light_skin_tone 👴🏼",
   "oncoming_fist_medium_skin_tone 👊🏽 open_mailbox_with_lowered_flag 📭",
   "person_biking_medium_skin_tone 🚴🏽 person_bowing_medium_skin_tone 🙇🏽",
   "person_climbing_dark_skin_tone 🧗🏿 person_frowning_dark_skin_tone 🙍🏿",
   "person_golfing_light_skin_tone 🏌🏻 person_in_bed_medium_skin_tone 🛌🏽",
   "person_juggling_dark_skin_tone 🤹🏿 person_pouting_light_skin_tone 🙎🏻",
   "person_running_light_skin_tone 🏃🏻 person_surfing_light_skin_tone 🏄🏻",
   "person_swimming_dark_skin_tone 🏊🏿 person_walking_light_skin_tone 🚶🏻",
   "police_officer_light_skin_tone 👮🏻 pregnant_woman_light_skin_tone 🤰🏻",
   "princess_medium-dark_skin_tone 👸🏾 raising_hands_medium_skin_tone 🙌🏽",
   "smiling_face_with_smiling_eyes 😊 vampire_medium-light_skin_tone 🧛🏼",
   "vulcan_salute_medium_skin_tone 🖖🏽 woman_astronaut_dark_skin_tone 👩🏿‍🚀",
   "woman_climbing_light_skin_tone 🧗🏻‍♀️ woman_dancing_medium_skin_tone 💃🏽",
   "woman_detective_dark_skin_tone 🕵🏿‍♀️ woman_frowning_light_skin_tone 🙍🏻‍♀️",
   "woman_golfing_medium_skin_tone 🏌🏽‍♀️ woman_juggling_light_skin_tone 🤹🏻‍♀️",
   "woman_mechanic_light_skin_tone 👩🏻‍🔧 woman_pouting_medium_skin_tone 🙎🏽‍♀️",
   "woman_running_medium_skin_tone 🏃🏽‍♀️ woman_scientist_dark_skin_tone 👩🏿‍🔬",
   "woman_shrugging_dark_skin_tone 🤷🏿‍♀️ woman_student_medium_skin_tone 👩🏽‍🎓",
   "woman_surfing_medium_skin_tone 🏄🏽‍♀️ woman_swimming_light_skin_tone 🏊🏻‍♀️",
   "woman_teacher_medium_skin_tone 👩🏽‍🏫 woman_vampire_medium_skin_tone 🧛🏽‍♀️",
   "woman_walking_medium_skin_tone 🚶🏽‍♀️ bearded_person_medium_skin_tone 🧔🏽",
   "blond-haired_man_dark_skin_tone 👱🏿‍♂️ breast-feeding_medium_skin_tone 🤱🏽",
   "bride_with_veil_light_skin_tone 👰🏻 clapping_hands_medium_skin_tone 👏🏽",
   "closed_mailbox_with_raised_flag 📫 crossed_fingers_light_skin_tone 🤞🏻",
   "detective_medium-dark_skin_tone 🕵🏾 diamond_shape_with_a_dot_inside 💠",
   "flag_for_british_virgin_islands 🇻🇬 flag_for_turks_&_caicos_islands 🇹🇨",
   "grinning_face_with_smiling_eyes 😄 japanese_congratulations_button ㊗",
   "left-facing_fist_dark_skin_tone 🤛🏿 love-you_gesture_dark_skin_tone 🤟🏿",
   "man_cartwheeling_dark_skin_tone 🤸🏿‍♂️ man_cook_medium-light_skin_tone 👨🏼‍🍳",
   "man_facepalming_light_skin_tone 🤦🏻‍♂️ man_fairy_medium-dark_skin_tone 🧚🏾‍♂️",
   "man_firefighter_light_skin_tone 👨🏻‍🚒 man_gesturing_no_dark_skin_tone 🙅🏿‍♂️",
   "man_gesturing_ok_dark_skin_tone 🙆🏿‍♂️ man_guard_medium-dark_skin_tone 💂🏾‍♂️",
   "man_in_business_suit_levitating 🕴 man_judge_medium-dark_skin_tone 👨🏾‍⚖️",
   "man_mage_medium-light_skin_tone 🧙🏼‍♂️ man_pilot_medium-dark_skin_tone 👨🏾‍✈️",
   "man_raising_hand_dark_skin_tone 🙋🏿‍♂️ man_rowing_boat_light_skin_tone 🚣🏻‍♂️",
   "man_technologist_dark_skin_tone 👨🏿‍💻 man_tipping_hand_dark_skin_tone 💁🏿‍♂️",
   "merperson_medium-dark_skin_tone 🧜🏾 old_woman_medium-dark_skin_tone 👵🏾",
   "person_climbing_light_skin_tone 🧗🏻 person_frowning_light_skin_tone 🙍🏻",
   "person_golfing_medium_skin_tone 🏌🏽 person_juggling_light_skin_tone 🤹🏻",
   "person_pouting_medium_skin_tone 🙎🏽 person_running_medium_skin_tone 🏃🏽",
   "person_shrugging_dark_skin_tone 🤷🏿 person_surfing_medium_skin_tone 🏄🏽",
   "person_swimming_light_skin_tone 🏊🏻 person_walking_medium_skin_tone 🚶🏽",
   "police_officer_medium_skin_tone 👮🏽 pregnant_woman_medium_skin_tone 🤰🏽",
   "princess_medium-light_skin_tone 👸🏼 thumbs_up_medium-dark_skin_tone 👍🏾",
   "woman_astronaut_light_skin_tone 👩🏻‍🚀 woman_climbing_medium_skin_tone 🧗🏽‍♀️",
   "woman_detective_light_skin_tone 🕵🏻‍♀️ woman_elf_medium-dark_skin_tone 🧝🏾‍♀️",
   "woman_frowning_medium_skin_tone 🙍🏽‍♀️ woman_juggling_medium_skin_tone 🤹🏽‍♀️",
   "woman_mechanic_medium_skin_tone 👩🏽‍🔧 woman_scientist_light_skin_tone 👩🏻‍🔬",
   "woman_shrugging_light_skin_tone 🤷🏻‍♀️ woman_swimming_medium_skin_tone 🏊🏽‍♀️",
   "baby_angel_medium-dark_skin_tone 👼🏾 blond-haired_man_light_skin_tone 👱🏻‍♂️",
   "bride_with_veil_medium_skin_tone 👰🏽 closed_mailbox_with_lowered_flag 📪",
   "crossed_fingers_medium_skin_tone 🤞🏽 detective_medium-light_skin_tone 🕵🏼",
   "flag_for_palestinian_territories 🇵🇸 index_pointing_up_dark_skin_tone ☝🏿",
   "left-facing_fist_light_skin_tone 🤛🏻 love-you_gesture_light_skin_tone 🤟🏻",
   "man_artist_medium-dark_skin_tone 👨🏾‍🎨 man_biking_medium-dark_skin_tone 🚴🏾‍♂️",
   "man_bouncing_ball_dark_skin_tone ⛹🏿‍♂️ man_bowing_medium-dark_skin_tone 🙇🏾‍♂️",
   "man_cartwheeling_light_skin_tone 🤸🏻‍♂️ man_facepalming_medium_skin_tone 🤦🏽‍♂️",
   "man_fairy_medium-light_skin_tone 🧚🏼‍♂️ man_farmer_medium-dark_skin_tone 👨🏾‍🌾",
   "man_firefighter_medium_skin_tone 👨🏽‍🚒 man_gesturing_no_light_skin_tone 🙅🏻‍♂️",
   "man_gesturing_ok_light_skin_tone 🙆🏻‍♂️ man_guard_medium-light_skin_tone 💂🏼‍♂️",
   "man_health_worker_dark_skin_tone 👨🏿‍⚕️ man_judge_medium-light_skin_tone 👨🏼‍⚖️",
   "man_office_worker_dark_skin_tone 👨🏿‍💼 man_pilot_medium-light_skin_tone 👨🏼‍✈️",
   "man_raising_hand_light_skin_tone 🙋🏻‍♂️ man_rowing_boat_medium_skin_tone 🚣🏽‍♂️",
   "man_singer_medium-dark_skin_tone 👨🏾‍🎤 man_technologist_light_skin_tone 👨🏻‍💻",
   "man_tipping_hand_light_skin_tone 💁🏻‍♂️ merperson_medium-light_skin_tone 🧜🏼",
   "mrs._claus_medium-dark_skin_tone 🤶🏾 old_woman_medium-light_skin_tone 👵🏼",
   "open_hands_medium-dark_skin_tone 👐🏾 palms_up_together_dark_skin_tone 🤲🏿",
   "person_climbing_medium_skin_tone 🧗🏽 person_frowning_medium_skin_tone 🙍🏽",
   "person_juggling_medium_skin_tone 🤹🏽 person_shrugging_light_skin_tone 🤷🏻",
   "person_swimming_medium_skin_tone 🏊🏽 raised_hand_with_fingers_splayed 🖐",
   "right-facing_fist_dark_skin_tone 🤜🏿 sign_of_the_horns_dark_skin_tone 🤘🏿",
   "smiling_cat_face_with_heart-eyes 😻 thumbs_up_medium-light_skin_tone 👍🏼",
   "white_sun_behind_cloud_with_rain 🌦 woman_astronaut_medium_skin_tone 👩🏽‍🚀",
   "woman_cook_medium-dark_skin_tone 👩🏾‍🍳 woman_detective_medium_skin_tone 🕵🏽‍♀️",
   "woman_elf_medium-light_skin_tone 🧝🏼‍♀️ woman_facepalming_dark_skin_tone 🤦🏿‍♀️",
   "woman_firefighter_dark_skin_tone 👩🏿‍🚒 woman_mage_medium-dark_skin_tone 🧙🏾‍♀️",
   "woman_rowing_boat_dark_skin_tone 🚣🏿‍♀️ woman_scientist_medium_skin_tone 👩🏽‍🔬",
   "woman_shrugging_medium_skin_tone 🤷🏽‍♀️ baby_angel_medium-light_skin_tone 👼🏼",
   "badminton_racquet_and_shuttlecock 🏸 blond-haired_man_medium_skin_tone 👱🏽‍♂️",
   "blond-haired_woman_dark_skin_tone 👱🏿‍♀️ flag_for_central_african_republic 🇨🇫",
   "flag_for_heard_&_mcdonald_islands 🇭🇲 flag_for_northern_mariana_islands 🇲🇵",
   "flag_for_st._vincent_&_grenadines 🇻🇨 index_pointing_up_light_skin_tone ☝🏻",
   "japanese_open_for_business_button 🈺 left-facing_fist_medium_skin_tone 🤛🏽",
   "love-you_gesture_medium_skin_tone 🤟🏽 man_artist_medium-light_skin_tone 👨🏼‍🎨",
   "man_biking_medium-light_skin_tone 🚴🏼‍♂️ man_bouncing_ball_light_skin_tone ⛹🏻‍♂️",
   "man_bowing_medium-light_skin_tone 🙇🏼‍♂️ man_cartwheeling_medium_skin_tone 🤸🏽‍♂️",
   "man_dancing_medium-dark_skin_tone 🕺🏾 man_factory_worker_dark_skin_tone 👨🏿‍🏭",
   "man_farmer_medium-light_skin_tone 👨🏼‍🌾 man_gesturing_no_medium_skin_tone 🙅🏽‍♂️",
   "man_gesturing_ok_medium_skin_tone 🙆🏽‍♂️ man_golfing_medium-dark_skin_tone 🏌🏾‍♂️",
   "man_health_worker_light_skin_tone 👨🏻‍⚕️ man_in_steamy_room_dark_skin_tone 🧖🏿‍♂️",
   "man_office_worker_light_skin_tone 👨🏻‍💼 man_police_officer_dark_skin_tone 👮🏿‍♂️",
   "man_pouting_medium-dark_skin_tone 🙎🏾‍♂️ man_raising_hand_medium_skin_tone 🙋🏽‍♂️",
   "man_running_medium-dark_skin_tone 🏃🏾‍♂️ man_singer_medium-light_skin_tone 👨🏼‍🎤",
   "man_student_medium-dark_skin_tone 👨🏾‍🎓 man_surfing_medium-dark_skin_tone 🏄🏾‍♂️",
   "man_teacher_medium-dark_skin_tone 👨🏾‍🏫 man_technologist_medium_skin_tone 👨🏽‍💻",
   "man_tipping_hand_medium_skin_tone 💁🏽‍♂️ man_vampire_medium-dark_skin_tone 🧛🏾‍♂️",
   "man_walking_medium-dark_skin_tone 🚶🏾‍♂️ man_wearing_turban_dark_skin_tone 👳🏿‍♂️",
   "mrs._claus_medium-light_skin_tone 🤶🏼 nail_polish_medium-dark_skin_tone 💅🏾",
   "older_adult_medium-dark_skin_tone 🧓🏾 open_hands_medium-light_skin_tone 👐🏼",
   "palms_up_together_light_skin_tone 🤲🏻 person_facepalming_dark_skin_tone 🤦🏿",
   "person_rowing_boat_dark_skin_tone 🚣🏿 person_shrugging_medium_skin_tone 🤷🏽",
   "person_taking_bath_dark_skin_tone 🛀🏿 raised_fist_medium-dark_skin_tone ✊🏾",
   "raised_hand_medium-dark_skin_tone ✋🏾 right-facing_fist_light_skin_tone 🤜🏻",
   "santa_claus_medium-dark_skin_tone 🎅🏾 sign_of_the_horns_light_skin_tone 🤘🏻",
   "snowboarder_medium-dark_skin_tone 🏂🏾 thumbs_down_medium-dark_skin_tone 👎🏾",
   "waving_hand_medium-dark_skin_tone 👋🏾 woman_cartwheeling_dark_skin_tone 🤸🏿‍♀️",
   "woman_cook_medium-light_skin_tone 👩🏼‍🍳 woman_facepalming_light_skin_tone 🤦🏻‍♀️",
   "woman_fairy_medium-dark_skin_tone 🧚🏾‍♀️ woman_firefighter_light_skin_tone 👩🏻‍🚒",
   "woman_gesturing_no_dark_skin_tone 🙅🏿‍♀️ woman_gesturing_ok_dark_skin_tone 🙆🏿‍♀️",
   "woman_guard_medium-dark_skin_tone 💂🏾‍♀️ woman_judge_medium-dark_skin_tone 👩🏾‍⚖️",
   "woman_mage_medium-light_skin_tone 🧙🏼‍♀️ woman_pilot_medium-dark_skin_tone 👩🏾‍✈️",
   "woman_raising_hand_dark_skin_tone 🙋🏿‍♀️ woman_rowing_boat_light_skin_tone 🚣🏻‍♀️",
   "woman_technologist_dark_skin_tone 👩🏿‍💻 woman_tipping_hand_dark_skin_tone 💁🏿‍♀️",
   "blond-haired_person_dark_skin_tone 👱🏿 blond-haired_woman_light_skin_tone 👱🏻‍♀️",
   "call_me_hand_medium-dark_skin_tone 🤙🏾 construction_worker_dark_skin_tone 👷🏿",
   "emoji_modifier_fitzpatrick_type__3 🏼 emoji_modifier_fitzpatrick_type__4 🏽",
   "emoji_modifier_fitzpatrick_type__5 🏾 emoji_modifier_fitzpatrick_type__6 🏿",
   "folded_hands_medium-dark_skin_tone 🙏🏾 horse_racing_medium-dark_skin_tone 🏇🏾",
   "index_pointing_up_medium_skin_tone ☝🏽 japanese_not_free_of_charge_button 🈶",
   "man_bouncing_ball_medium_skin_tone ⛹🏽‍♂️ man_climbing_medium-dark_skin_tone 🧗🏾‍♂️",
   "man_dancing_medium-light_skin_tone 🕺🏼 man_factory_worker_light_skin_tone 👨🏻‍🏭",
   "man_frowning_medium-dark_skin_tone 🙍🏾‍♂️ man_getting_haircut_dark_skin_tone 💇🏿‍♂️",
   "man_getting_massage_dark_skin_tone 💆🏿‍♂️ man_golfing_medium-light_skin_tone 🏌🏼‍♂️",
   "man_health_worker_medium_skin_tone 👨🏽‍⚕️ man_in_steamy_room_light_skin_tone 🧖🏻‍♂️",
   "man_juggling_medium-dark_skin_tone 🤹🏾‍♂️ man_lifting_weights_dark_skin_tone 🏋🏿‍♂️",
   "man_mechanic_medium-dark_skin_tone 👨🏾‍🔧 man_mountain_biking_dark_skin_tone 🚵🏿‍♂️",
   "man_office_worker_medium_skin_tone 👨🏽‍💼 man_police_officer_light_skin_tone 👮🏻‍♂️",
   "man_pouting_medium-light_skin_tone 🙎🏼‍♂️ man_running_medium-light_skin_tone 🏃🏼‍♂️",
   "man_student_medium-light_skin_tone 👨🏼‍🎓 man_surfing_medium-light_skin_tone 🏄🏼‍♂️",
   "man_swimming_medium-dark_skin_tone 🏊🏾‍♂️ man_teacher_medium-light_skin_tone 👨🏼‍🏫",
   "man_vampire_medium-light_skin_tone 🧛🏼‍♂️ man_walking_medium-light_skin_tone 🚶🏼‍♂️",
   "man_wearing_turban_light_skin_tone 👳🏻‍♂️ nail_polish_medium-light_skin_tone 💅🏼",
   "older_adult_medium-light_skin_tone 🧓🏼 palms_up_together_medium_skin_tone 🤲🏽",
   "person_cartwheeling_dark_skin_tone 🤸🏿 person_facepalming_light_skin_tone 🤦🏻",
   "person_gesturing_no_dark_skin_tone 🙅🏿 person_gesturing_ok_dark_skin_tone 🙆🏿",
   "person_raising_hand_dark_skin_tone 🙋🏿 person_rowing_boat_light_skin_tone 🚣🏻",
   "person_taking_bath_light_skin_tone 🛀🏻 person_tipping_hand_dark_skin_tone 💁🏿",
   "raised_back_of_hand_dark_skin_tone 🤚🏿 raised_fist_medium-light_skin_tone ✊🏼",
   "raised_hand_medium-light_skin_tone ✋🏼 regional_indicator_symbol_letter_a 🇦",
   "regional_indicator_symbol_letter_b 🇧 regional_indicator_symbol_letter_c 🇨",
   "regional_indicator_symbol_letter_d 🇩 regional_indicator_symbol_letter_e 🇪",
   "regional_indicator_symbol_letter_f 🇫 regional_indicator_symbol_letter_g 🇬",
   "regional_indicator_symbol_letter_h 🇭 regional_indicator_symbol_letter_i 🇮",
   "regional_indicator_symbol_letter_j 🇯 regional_indicator_symbol_letter_k 🇰",
   "regional_indicator_symbol_letter_l 🇱 regional_indicator_symbol_letter_m 🇲",
   "regional_indicator_symbol_letter_n 🇳 regional_indicator_symbol_letter_o 🇴",
   "regional_indicator_symbol_letter_p 🇵 regional_indicator_symbol_letter_q 🇶",
   "regional_indicator_symbol_letter_r 🇷 regional_indicator_symbol_letter_s 🇸",
   "regional_indicator_symbol_letter_t 🇹 regional_indicator_symbol_letter_u 🇺",
   "regional_indicator_symbol_letter_v 🇻 regional_indicator_symbol_letter_w 🇼",
   "regional_indicator_symbol_letter_x 🇽 regional_indicator_symbol_letter_y 🇾",
   "regional_indicator_symbol_letter_z 🇿 right-facing_fist_medium_skin_tone 🤜🏽",
   "santa_claus_medium-light_skin_tone 🎅🏼 sign_of_the_horns_medium_skin_tone 🤘🏽",
   "snowboarder_medium-light_skin_tone 🏂🏼 thumbs_down_medium-light_skin_tone 👎🏼",
   "victory_hand_medium-dark_skin_tone ✌🏾 waving_hand_medium-light_skin_tone 👋🏼",
   "woman_artist_medium-dark_skin_tone 👩🏾‍🎨 woman_biking_medium-dark_skin_tone 🚴🏾‍♀️",
   "woman_bouncing_ball_dark_skin_tone ⛹🏿‍♀️ woman_bowing_medium-dark_skin_tone 🙇🏾‍♀️",
   "woman_cartwheeling_light_skin_tone 🤸🏻‍♀️ woman_facepalming_medium_skin_tone 🤦🏽‍♀️",
   "woman_fairy_medium-light_skin_tone 🧚🏼‍♀️ woman_farmer_medium-dark_skin_tone 👩🏾‍🌾",
   "woman_firefighter_medium_skin_tone 👩🏽‍🚒 woman_gesturing_no_light_skin_tone 🙅🏻‍♀️",
   "woman_gesturing_ok_light_skin_tone 🙆🏻‍♀️ woman_guard_medium-light_skin_tone 💂🏼‍♀️",
   "woman_health_worker_dark_skin_tone 👩🏿‍⚕️ woman_judge_medium-light_skin_tone 👩🏼‍⚖️",
   "woman_office_worker_dark_skin_tone 👩🏿‍💼 woman_pilot_medium-light_skin_tone 👩🏼‍✈️",
   "woman_raising_hand_light_skin_tone 🙋🏻‍♀️ woman_rowing_boat_medium_skin_tone 🚣🏽‍♀️",
   "woman_singer_medium-dark_skin_tone 👩🏾‍🎤 woman_technologist_light_skin_tone 👩🏻‍💻",
   "woman_tipping_hand_light_skin_tone 💁🏻‍♀️ writing_hand_medium-dark_skin_tone ✍🏾",
   "blond-haired_person_light_skin_tone 👱🏻 blond-haired_woman_medium_skin_tone 👱🏽‍♀️",
   "call_me_hand_medium-light_skin_tone 🤙🏼 construction_worker_light_skin_tone 👷🏻",
   "flexed_biceps_medium-dark_skin_tone 💪🏾 folded_hands_medium-light_skin_tone 🙏🏼",
   "grinning_cat_face_with_smiling_eyes 😸 horse_racing_medium-light_skin_tone 🏇🏼",
   "man_astronaut_medium-dark_skin_tone 👨🏾‍🚀 man_climbing_medium-light_skin_tone 🧗🏼‍♂️",
   "man_detective_medium-dark_skin_tone 🕵🏾‍♂️ man_factory_worker_medium_skin_tone 👨🏽‍🏭",
   "man_frowning_medium-light_skin_tone 🙍🏼‍♂️ man_getting_haircut_light_skin_tone 💇🏻‍♂️",
   "man_getting_massage_light_skin_tone 💆🏻‍♂️ man_in_steamy_room_medium_skin_tone 🧖🏽‍♂️",
   "man_in_tuxedo_medium-dark_skin_tone 🤵🏾 man_juggling_medium-light_skin_tone 🤹🏼‍♂️",
   "man_lifting_weights_light_skin_tone 🏋🏻‍♂️ man_mechanic_medium-light_skin_tone 👨🏼‍🔧",
   "man_mountain_biking_light_skin_tone 🚵🏻‍♂️ man_playing_handball_dark_skin_tone 🤾🏿‍♂️",
   "man_police_officer_medium_skin_tone 👮🏽‍♂️ man_scientist_medium-dark_skin_tone 👨🏾‍🔬",
   "man_shrugging_medium-dark_skin_tone 🤷🏾‍♂️ man_swimming_medium-light_skin_tone 🏊🏼‍♂️",
   "man_wearing_turban_medium_skin_tone 👳🏽‍♂️ man_with_chinese_cap_dark_skin_tone 👲🏿",
   "middle_finger_medium-dark_skin_tone 🖕🏾 oncoming_fist_medium-dark_skin_tone 👊🏾",
   "person_biking_medium-dark_skin_tone 🚴🏾 person_bouncing_ball_dark_skin_tone ⛹🏿",
   "person_bowing_medium-dark_skin_tone 🙇🏾 person_cartwheeling_light_skin_tone 🤸🏻",
   "person_facepalming_medium_skin_tone 🤦🏽 person_gesturing_no_light_skin_tone 🙅🏻",
   "person_gesturing_ok_light_skin_tone 🙆🏻 person_in_bed_medium-dark_skin_tone 🛌🏾",
   "person_raising_hand_light_skin_tone 🙋🏻 person_rowing_boat_medium_skin_tone 🚣🏽",
   "person_taking_bath_medium_skin_tone 🛀🏽 person_tipping_hand_light_skin_tone 💁🏻",
   "raised_back_of_hand_light_skin_tone 🤚🏻 raising_hands_medium-dark_skin_tone 🙌🏾",
   "victory_hand_medium-light_skin_tone ✌🏼 vulcan_salute_medium-dark_skin_tone 🖖🏾",
   "woman_artist_medium-light_skin_tone 👩🏼‍🎨 woman_biking_medium-light_skin_tone 🚴🏼‍♀️",
   "woman_bouncing_ball_light_skin_tone ⛹🏻‍♀️ woman_bowing_medium-light_skin_tone 🙇🏼‍♀️",
   "woman_cartwheeling_medium_skin_tone 🤸🏽‍♀️ woman_dancing_medium-dark_skin_tone 💃🏾",
   "woman_factory_worker_dark_skin_tone 👩🏿‍🏭 woman_farmer_medium-light_skin_tone 👩🏼‍🌾",
   "woman_gesturing_no_medium_skin_tone 🙅🏽‍♀️ woman_gesturing_ok_medium_skin_tone 🙆🏽‍♀️",
   "woman_golfing_medium-dark_skin_tone 🏌🏾‍♀️ woman_health_worker_light_skin_tone 👩🏻‍⚕️",
   "woman_in_steamy_room_dark_skin_tone 🧖🏿‍♀️ woman_office_worker_light_skin_tone 👩🏻‍💼",
   "woman_police_officer_dark_skin_tone 👮🏿‍♀️ woman_pouting_medium-dark_skin_tone 🙎🏾‍♀️",
   "woman_raising_hand_medium_skin_tone 🙋🏽‍♀️ woman_running_medium-dark_skin_tone 🏃🏾‍♀️",
   "woman_singer_medium-light_skin_tone 👩🏼‍🎤 woman_student_medium-dark_skin_tone 👩🏾‍🎓",
   "woman_surfing_medium-dark_skin_tone 🏄🏾‍♀️ woman_teacher_medium-dark_skin_tone 👩🏾‍🏫",
   "woman_technologist_medium_skin_tone 👩🏽‍💻 woman_tipping_hand_medium_skin_tone 💁🏽‍♀️",
   "woman_vampire_medium-dark_skin_tone 🧛🏾‍♀️ woman_walking_medium-dark_skin_tone 🚶🏾‍♀️",
   "woman_wearing_turban_dark_skin_tone 👳🏿‍♀️ woman_with_headscarf_dark_skin_tone 🧕🏿",
   "writing_hand_medium-light_skin_tone ✍🏼 bearded_person_medium-dark_skin_tone 🧔🏾",
   "blond-haired_person_medium_skin_tone 👱🏽 breast-feeding_medium-dark_skin_tone 🤱🏾",
   "clapping_hands_medium-dark_skin_tone 👏🏾 construction_worker_medium_skin_tone 👷🏽",
   "flag_for_french_southern_territories 🇹🇫 flexed_biceps_medium-light_skin_tone 💪🏼",
   "man_astronaut_medium-light_skin_tone 👨🏼‍🚀 man_detective_medium-light_skin_tone 🕵🏼‍♂️",
   "man_getting_haircut_medium_skin_tone 💇🏽‍♂️ man_getting_massage_medium_skin_tone 💆🏽‍♂️",
   "man_in_lotus_position_dark_skin_tone 🧘🏿‍♂️ man_in_tuxedo_medium-light_skin_tone 🤵🏼",
   "man_lifting_weights_medium_skin_tone 🏋🏽‍♂️ man_mountain_biking_medium_skin_tone 🚵🏽‍♂️",
   "man_playing_handball_light_skin_tone 🤾🏻‍♂️ man_scientist_medium-light_skin_tone 👨🏼‍🔬",
   "man_shrugging_medium-light_skin_tone 🤷🏼‍♂️ man_with_chinese_cap_light_skin_tone 👲🏻",
   "middle_finger_medium-light_skin_tone 🖕🏼 oncoming_fist_medium-light_skin_tone 👊🏼",
   "person_biking_medium-light_skin_tone 🚴🏼 person_bouncing_ball_light_skin_tone ⛹🏻",
   "person_bowing_medium-light_skin_tone 🙇🏼 person_cartwheeling_medium_skin_tone 🤸🏽",
   "person_gesturing_no_medium_skin_tone 🙅🏽 person_gesturing_ok_medium_skin_tone 🙆🏽",
   "person_golfing_medium-dark_skin_tone 🏌🏾 person_in_bed_medium-light_skin_tone 🛌🏼",
   "person_in_steamy_room_dark_skin_tone 🧖🏿 person_pouting_medium-dark_skin_tone 🙎🏾",
   "person_raising_hand_medium_skin_tone 🙋🏽 person_running_medium-dark_skin_tone 🏃🏾",
   "person_surfing_medium-dark_skin_tone 🏄🏾 person_tipping_hand_medium_skin_tone 💁🏽",
   "person_walking_medium-dark_skin_tone 🚶🏾 person_wearing_turban_dark_skin_tone 👳🏿",
   "police_officer_medium-dark_skin_tone 👮🏾 pregnant_woman_medium-dark_skin_tone 🤰🏾",
   "raised_back_of_hand_medium_skin_tone 🤚🏽 raising_hands_medium-light_skin_tone 🙌🏼",
   "vulcan_salute_medium-light_skin_tone 🖖🏼 woman_bouncing_ball_medium_skin_tone ⛹🏽‍♀️",
   "woman_climbing_medium-dark_skin_tone 🧗🏾‍♀️ woman_dancing_medium-light_skin_tone 💃🏼",
   "woman_factory_worker_light_skin_tone 👩🏻‍🏭 woman_frowning_medium-dark_skin_tone 🙍🏾‍♀️",
   "woman_getting_haircut_dark_skin_tone 💇🏿‍♀️ woman_getting_massage_dark_skin_tone 💆🏿‍♀️",
   "woman_golfing_medium-light_skin_tone 🏌🏼‍♀️ woman_health_worker_medium_skin_tone 👩🏽‍⚕️",
   "woman_in_steamy_room_light_skin_tone 🧖🏻‍♀️ woman_juggling_medium-dark_skin_tone 🤹🏾‍♀️",
   "woman_lifting_weights_dark_skin_tone 🏋🏿‍♀️ woman_mechanic_medium-dark_skin_tone 👩🏾‍🔧",
   "woman_mountain_biking_dark_skin_tone 🚵🏿‍♀️ woman_office_worker_medium_skin_tone 👩🏽‍💼",
   "woman_police_officer_light_skin_tone 👮🏻‍♀️ woman_pouting_medium-light_skin_tone 🙎🏼‍♀️",
   "woman_running_medium-light_skin_tone 🏃🏼‍♀️ woman_student_medium-light_skin_tone 👩🏼‍🎓",
   "woman_surfing_medium-light_skin_tone 🏄🏼‍♀️ woman_swimming_medium-dark_skin_tone 🏊🏾‍♀️",
   "woman_teacher_medium-light_skin_tone 👩🏼‍🏫 woman_vampire_medium-light_skin_tone 🧛🏼‍♀️",
   "woman_walking_medium-light_skin_tone 🚶🏼‍♀️ woman_wearing_turban_light_skin_tone 👳🏻‍♀️",
   "woman_with_headscarf_light_skin_tone 🧕🏻 bearded_person_medium-light_skin_tone 🧔🏼",
   "breast-feeding_medium-light_skin_tone 🤱🏼 bride_with_veil_medium-dark_skin_tone 👰🏾",
   "clapping_hands_medium-light_skin_tone 👏🏼 crossed_fingers_medium-dark_skin_tone 🤞🏾",
   "emoji_modifier_fitzpatrick_type__1__2 🏻 heavy_heart_exclamation_mark_ornament ❣",
   "man_facepalming_medium-dark_skin_tone 🤦🏾‍♂️ man_firefighter_medium-dark_skin_tone 👨🏾‍🚒",
   "man_in_lotus_position_light_skin_tone 🧘🏻‍♂️ man_in_suit_levitating_dark_skin_tone 🕴🏿",
   "man_playing_handball_medium_skin_tone 🤾🏽‍♂️ man_playing_water_polo_dark_skin_tone 🤽🏿‍♂️",
   "man_rowing_boat_medium-dark_skin_tone 🚣🏾‍♂️ man_with_chinese_cap_medium_skin_tone 👲🏽",
   "person_bouncing_ball_medium_skin_tone ⛹🏽 person_climbing_medium-dark_skin_tone 🧗🏾",
   "person_frowning_medium-dark_skin_tone 🙍🏾 person_getting_haircut_dark_skin_tone 💇🏿",
   "person_getting_massage_dark_skin_tone 💆🏿 person_golfing_medium-light_skin_tone 🏌🏼",
   "person_in_steamy_room_light_skin_tone 🧖🏻 person_juggling_medium-dark_skin_tone 🤹🏾",
   "person_lifting_weights_dark_skin_tone 🏋🏿 person_mountain_biking_dark_skin_tone 🚵🏿",
   "person_pouting_medium-light_skin_tone 🙎🏼 person_running_medium-light_skin_tone 🏃🏼",
   "person_surfing_medium-light_skin_tone 🏄🏼 person_swimming_medium-dark_skin_tone 🏊🏾",
   "person_walking_medium-light_skin_tone 🚶🏼 person_wearing_turban_light_skin_tone 👳🏻",
   "police_officer_medium-light_skin_tone 👮🏼 pregnant_woman_medium-light_skin_tone 🤰🏼",
   "woman_astronaut_medium-dark_skin_tone 👩🏾‍🚀 woman_climbing_medium-light_skin_tone 🧗🏼‍♀️",
   "woman_detective_medium-dark_skin_tone 🕵🏾‍♀️ woman_factory_worker_medium_skin_tone 👩🏽‍🏭",
   "woman_frowning_medium-light_skin_tone 🙍🏼‍♀️ woman_getting_haircut_light_skin_tone 💇🏻‍♀️",
   "woman_getting_massage_light_skin_tone 💆🏻‍♀️ woman_in_steamy_room_medium_skin_tone 🧖🏽‍♀️",
   "woman_juggling_medium-light_skin_tone 🤹🏼‍♀️ woman_lifting_weights_light_skin_tone 🏋🏻‍♀️",
   "woman_mechanic_medium-light_skin_tone 👩🏼‍🔧 woman_mountain_biking_light_skin_tone 🚵🏻‍♀️",
   "woman_playing_handball_dark_skin_tone 🤾🏿‍♀️ woman_police_officer_medium_skin_tone 👮🏽‍♀️",
   "woman_scientist_medium-dark_skin_tone 👩🏾‍🔬 woman_shrugging_medium-dark_skin_tone 🤷🏾‍♀️",
   "woman_swimming_medium-light_skin_tone 🏊🏼‍♀️ woman_wearing_turban_medium_skin_tone 👳🏽‍♀️",
   "woman_with_headscarf_medium_skin_tone 🧕🏽 blond-haired_man_medium-dark_skin_tone 👱🏾‍♂️",
   "bride_with_veil_medium-light_skin_tone 👰🏼 crossed_fingers_medium-light_skin_tone 🤞🏼",
   "left-facing_fist_medium-dark_skin_tone 🤛🏾 love-you_gesture_medium-dark_skin_tone 🤟🏾",
   "man_cartwheeling_medium-dark_skin_tone 🤸🏾‍♂️ man_construction_worker_dark_skin_tone 👷🏿‍♂️",
   "man_facepalming_medium-light_skin_tone 🤦🏼‍♂️ man_firefighter_medium-light_skin_tone 👨🏼‍🚒",
   "man_gesturing_no_medium-dark_skin_tone 🙅🏾‍♂️ man_gesturing_ok_medium-dark_skin_tone 🙆🏾‍♂️",
   "man_in_lotus_position_medium_skin_tone 🧘🏽‍♂️ man_in_suit_levitating_light_skin_tone 🕴🏻",
   "man_playing_water_polo_light_skin_tone 🤽🏻‍♂️ man_raising_hand_medium-dark_skin_tone 🙋🏾‍♂️",
   "man_rowing_boat_medium-light_skin_tone 🚣🏼‍♂️ man_technologist_medium-dark_skin_tone 👨🏾‍💻",
   "man_tipping_hand_medium-dark_skin_tone 💁🏾‍♂️ person_climbing_medium-light_skin_tone 🧗🏼",
   "person_frowning_medium-light_skin_tone 🙍🏼 person_getting_haircut_light_skin_tone 💇🏻",
   "person_getting_massage_light_skin_tone 💆🏻 person_in_steamy_room_medium_skin_tone 🧖🏽",
   "person_juggling_medium-light_skin_tone 🤹🏼 person_lifting_weights_light_skin_tone 🏋🏻",
   "person_mountain_biking_light_skin_tone 🚵🏻 person_playing_handball_dark_skin_tone 🤾🏿",
   "person_shrugging_medium-dark_skin_tone 🤷🏾 person_swimming_medium-light_skin_tone 🏊🏼",
   "person_wearing_turban_medium_skin_tone 👳🏽 south_georgia_&_south_sandwich_islands 🇬🇸",
   "woman_astronaut_medium-light_skin_tone 👩🏼‍🚀 woman_detective_medium-light_skin_tone 🕵🏼‍♀️",
   "woman_getting_haircut_medium_skin_tone 💇🏽‍♀️ woman_getting_massage_medium_skin_tone 💆🏽‍♀️",
   "woman_in_lotus_position_dark_skin_tone 🧘🏿‍♀️ woman_lifting_weights_medium_skin_tone 🏋🏽‍♀️",
   "woman_mountain_biking_medium_skin_tone 🚵🏽‍♀️ woman_playing_handball_light_skin_tone 🤾🏻‍♀️",
   "woman_scientist_medium-light_skin_tone 👩🏼‍🔬 woman_shrugging_medium-light_skin_tone 🤷🏼‍♀️",
   "blond-haired_man_medium-light_skin_tone 👱🏼‍♂️ flag_for_british_indian_ocean_territory 🇮🇴",
   "index_pointing_up_medium-dark_skin_tone ☝🏾 left-facing_fist_medium-light_skin_tone 🤛🏼",
   "love-you_gesture_medium-light_skin_tone 🤟🏼 man_bouncing_ball_medium-dark_skin_tone ⛹🏾‍♂️",
   "man_cartwheeling_medium-light_skin_tone 🤸🏼‍♂️ man_construction_worker_light_skin_tone 👷🏻‍♂️",
   "man_gesturing_no_medium-light_skin_tone 🙅🏼‍♂️ man_gesturing_ok_medium-light_skin_tone 🙆🏼‍♂️",
   "man_health_worker_medium-dark_skin_tone 👨🏾‍⚕️ man_in_suit_levitating_medium_skin_tone 🕴🏽",
   "man_office_worker_medium-dark_skin_tone 👨🏾‍💼 man_playing_water_polo_medium_skin_tone 🤽🏽‍♂️",
   "man_raising_hand_medium-light_skin_tone 🙋🏼‍♂️ man_technologist_medium-light_skin_tone 👨🏼‍💻",
   "man_tipping_hand_medium-light_skin_tone 💁🏼‍♂️ palms_up_together_medium-dark_skin_tone 🤲🏾",
   "person_getting_haircut_medium_skin_tone 💇🏽 person_getting_massage_medium_skin_tone 💆🏽",
   "person_in_lotus_position_dark_skin_tone 🧘🏿 person_lifting_weights_medium_skin_tone 🏋🏽",
   "person_mountain_biking_medium_skin_tone 🚵🏽 person_playing_handball_light_skin_tone 🤾🏻",
   "person_shrugging_medium-light_skin_tone 🤷🏼 right-facing_fist_medium-dark_skin_tone 🤜🏾",
   "sign_of_the_horns_medium-dark_skin_tone 🤘🏾 woman_facepalming_medium-dark_skin_tone 🤦🏾‍♀️",
   "woman_firefighter_medium-dark_skin_tone 👩🏾‍🚒 woman_in_lotus_position_light_skin_tone 🧘🏻‍♀️",
   "woman_playing_handball_medium_skin_tone 🤾🏽‍♀️ woman_playing_water_polo_dark_skin_tone 🤽🏿‍♀️",
   "woman_rowing_boat_medium-dark_skin_tone 🚣🏾‍♀️ blond-haired_woman_medium-dark_skin_tone 👱🏾‍♀️",
   "hand_with_fingers_splayed_dark_skin_tone 🖐🏿 index_pointing_up_medium-light_skin_tone ☝🏼",
   "man_bouncing_ball_medium-light_skin_tone ⛹🏼‍♂️",
   "man_construction_worker_medium_skin_tone 👷🏽‍♂️ man_factory_worker_medium-dark_skin_tone 👨🏾‍🏭",
   "man_health_worker_medium-light_skin_tone 👨🏼‍⚕️",
   "man_in_steamy_room_medium-dark_skin_tone 🧖🏾‍♂️ man_office_worker_medium-light_skin_tone 👨🏼‍💼",
   "man_police_officer_medium-dark_skin_tone 👮🏾‍♂️",
   "man_wearing_turban_medium-dark_skin_tone 👳🏾‍♂️ palms_up_together_medium-light_skin_tone 🤲🏼",
   "person_facepalming_medium-dark_skin_tone 🤦🏾 person_in_lotus_position_light_skin_tone 🧘🏻",
   "person_playing_handball_medium_skin_tone 🤾🏽 person_playing_water_polo_dark_skin_tone 🤽🏿",
   "person_rowing_boat_medium-dark_skin_tone 🚣🏾 person_taking_bath_medium-dark_skin_tone 🛀🏾",
   "right-facing_fist_medium-light_skin_tone 🤜🏼 sign_of_the_horns_medium-light_skin_tone 🤘🏼",
   "woman_cartwheeling_medium-dark_skin_tone 🤸🏾‍♀️",
   "woman_construction_worker_dark_skin_tone 👷🏿‍♀️",
   "woman_facepalming_medium-light_skin_tone 🤦🏼‍♀️ woman_firefighter_medium-light_skin_tone 👩🏼‍🚒",
   "woman_gesturing_no_medium-dark_skin_tone 🙅🏾‍♀️",
   "woman_gesturing_ok_medium-dark_skin_tone 🙆🏾‍♀️",
   "woman_in_lotus_position_medium_skin_tone 🧘🏽‍♀️",
   "woman_playing_water_polo_light_skin_tone 🤽🏻‍♀️",
   "woman_raising_hand_medium-dark_skin_tone 🙋🏾‍♀️",
   "woman_rowing_boat_medium-light_skin_tone 🚣🏼‍♀️ woman_technologist_medium-dark_skin_tone 👩🏾‍💻",
   "woman_tipping_hand_medium-dark_skin_tone 💁🏾‍♀️ backhand_index_pointing_up_dark_skin_tone 👆🏿",
   "blond-haired_person_medium-dark_skin_tone 👱🏾 blond-haired_woman_medium-light_skin_tone 👱🏼‍♀️",
   "construction_worker_medium-dark_skin_tone 👷🏾 hand_with_fingers_splayed_light_skin_tone 🖐🏻",
   "man_factory_worker_medium-light_skin_tone 👨🏼‍🏭",
   "man_getting_haircut_medium-dark_skin_tone 💇🏾‍♂️",
   "man_getting_massage_medium-dark_skin_tone 💆🏾‍♂️",
   "man_in_steamy_room_medium-light_skin_tone 🧖🏼‍♂️",
   "man_lifting_weights_medium-dark_skin_tone 🏋🏾‍♂️",
   "man_mountain_biking_medium-dark_skin_tone 🚵🏾‍♂️",
   "man_police_officer_medium-light_skin_tone 👮🏼‍♂️",
   "man_wearing_turban_medium-light_skin_tone 👳🏼‍♂️ person_cartwheeling_medium-dark_skin_tone 🤸🏾",
   "person_facepalming_medium-light_skin_tone 🤦🏼 person_gesturing_no_medium-dark_skin_tone 🙅🏾",
   "person_gesturing_ok_medium-dark_skin_tone 🙆🏾 person_in_lotus_position_medium_skin_tone 🧘🏽",
   "person_playing_water_polo_light_skin_tone 🤽🏻 person_raising_hand_medium-dark_skin_tone 🙋🏾",
   "person_rowing_boat_medium-light_skin_tone 🚣🏼 person_taking_bath_medium-light_skin_tone 🛀🏼",
   "person_tipping_hand_medium-dark_skin_tone 💁🏾 raised_back_of_hand_medium-dark_skin_tone 🤚🏾",
   "reversed_hand_with_middle_finger_extended 🖕 woman_bouncing_ball_medium-dark_skin_tone ⛹🏾‍♀️",
   "woman_cartwheeling_medium-light_skin_tone 🤸🏼‍♀️",
   "woman_construction_worker_light_skin_tone 👷🏻‍♀️",
   "woman_gesturing_no_medium-light_skin_tone 🙅🏼‍♀️",
   "woman_gesturing_ok_medium-light_skin_tone 🙆🏼‍♀️",
   "woman_health_worker_medium-dark_skin_tone 👩🏾‍⚕️",
   "woman_office_worker_medium-dark_skin_tone 👩🏾‍💼",
   "woman_playing_water_polo_medium_skin_tone 🤽🏽‍♀️",
   "woman_raising_hand_medium-light_skin_tone 🙋🏼‍♀️",
   "woman_technologist_medium-light_skin_tone 👩🏼‍💻",
   "woman_tipping_hand_medium-light_skin_tone 💁🏼‍♀️",
   "backhand_index_pointing_up_light_skin_tone 👆🏻 blond-haired_person_medium-light_skin_tone 👱🏼",
   "construction_worker_medium-light_skin_tone 👷🏼 hand_with_fingers_splayed_medium_skin_tone 🖐🏽",
   "man_getting_haircut_medium-light_skin_tone 💇🏼‍♂️",
   "man_getting_massage_medium-light_skin_tone 💆🏼‍♂️",
   "man_lifting_weights_medium-light_skin_tone 🏋🏼‍♂️",
   "man_mountain_biking_medium-light_skin_tone 🚵🏼‍♂️",
   "man_playing_handball_medium-dark_skin_tone 🤾🏾‍♂️",
   "man_with_chinese_cap_medium-dark_skin_tone 👲🏾 person_bouncing_ball_medium-dark_skin_tone ⛹🏾",
   "person_cartwheeling_medium-light_skin_tone 🤸🏼 person_gesturing_no_medium-light_skin_tone 🙅🏼",
   "person_gesturing_ok_medium-light_skin_tone 🙆🏼 person_playing_water_polo_medium_skin_tone 🤽🏽",
   "person_raising_hand_medium-light_skin_tone 🙋🏼 person_tipping_hand_medium-light_skin_tone 💁🏼",
   "raised_back_of_hand_medium-light_skin_tone 🤚🏼",
   "woman_bouncing_ball_medium-light_skin_tone ⛹🏼‍♀️",
   "woman_construction_worker_medium_skin_tone 👷🏽‍♀️",
   "woman_factory_worker_medium-dark_skin_tone 👩🏾‍🏭",
   "woman_health_worker_medium-light_skin_tone 👩🏼‍⚕️",
   "woman_in_steamy_room_medium-dark_skin_tone 🧖🏾‍♀️",
   "woman_office_worker_medium-light_skin_tone 👩🏼‍💼",
   "woman_police_officer_medium-dark_skin_tone 👮🏾‍♀️",
   "woman_wearing_turban_medium-dark_skin_tone 👳🏾‍♀️",
   "woman_with_headscarf_medium-dark_skin_tone 🧕🏾 backhand_index_pointing_down_dark_skin_tone 👇🏿",
   "backhand_index_pointing_left_dark_skin_tone 👈🏿",
   "backhand_index_pointing_up_medium_skin_tone 👆🏽",
   "man_in_lotus_position_medium-dark_skin_tone 🧘🏾‍♂️",
   "man_playing_handball_medium-light_skin_tone 🤾🏼‍♂️",
   "man_with_chinese_cap_medium-light_skin_tone 👲🏼",
   "person_bouncing_ball_medium-light_skin_tone ⛹🏼",
   "person_in_steamy_room_medium-dark_skin_tone 🧖🏾",
   "person_wearing_turban_medium-dark_skin_tone 👳🏾",
   "woman_factory_worker_medium-light_skin_tone 👩🏼‍🏭",
   "woman_getting_haircut_medium-dark_skin_tone 💇🏾‍♀️",
   "woman_getting_massage_medium-dark_skin_tone 💆🏾‍♀️",
   "woman_in_steamy_room_medium-light_skin_tone 🧖🏼‍♀️",
   "woman_lifting_weights_medium-dark_skin_tone 🏋🏾‍♀️",
   "woman_mountain_biking_medium-dark_skin_tone 🚵🏾‍♀️",
   "woman_police_officer_medium-light_skin_tone 👮🏼‍♀️",
   "woman_wearing_turban_medium-light_skin_tone 👳🏼‍♀️",
   "woman_with_headscarf_medium-light_skin_tone 🧕🏼",
   "backhand_index_pointing_down_light_skin_tone 👇🏻",
   "backhand_index_pointing_left_light_skin_tone 👈🏻",
   "backhand_index_pointing_right_dark_skin_tone 👉🏿",
   "man_in_lotus_position_medium-light_skin_tone 🧘🏼‍♂️",
   "man_in_suit_levitating_medium-dark_skin_tone 🕴🏾",
   "man_playing_water_polo_medium-dark_skin_tone 🤽🏾‍♂️",
   "person_getting_haircut_medium-dark_skin_tone 💇🏾",
   "person_getting_massage_medium-dark_skin_tone 💆🏾",
   "person_in_steamy_room_medium-light_skin_tone 🧖🏼",
   "person_lifting_weights_medium-dark_skin_tone 🏋🏾",
   "person_mountain_biking_medium-dark_skin_tone 🚵🏾",
   "person_wearing_turban_medium-light_skin_tone 👳🏼",
   "woman_getting_haircut_medium-light_skin_tone 💇🏼‍♀️",
   "woman_getting_massage_medium-light_skin_tone 💆🏼‍♀️",
   "woman_lifting_weights_medium-light_skin_tone 🏋🏼‍♀️",
   "woman_mountain_biking_medium-light_skin_tone 🚵🏼‍♀️",
   "woman_playing_handball_medium-dark_skin_tone 🤾🏾‍♀️",
   "backhand_index_pointing_down_medium_skin_tone 👇🏽",
   "backhand_index_pointing_left_medium_skin_tone 👈🏽",
   "backhand_index_pointing_right_light_skin_tone 👉🏻",
   "man_construction_worker_medium-dark_skin_tone 👷🏾‍♂️",
   "man_in_suit_levitating_medium-light_skin_tone 🕴🏼",
   "man_playing_water_polo_medium-light_skin_tone 🤽🏼‍♂️",
   "person_getting_haircut_medium-light_skin_tone 💇🏼",
   "person_getting_massage_medium-light_skin_tone 💆🏼",
   "person_lifting_weights_medium-light_skin_tone 🏋🏼",
   "person_mountain_biking_medium-light_skin_tone 🚵🏼",
   "person_playing_handball_medium-dark_skin_tone 🤾🏾",
   "woman_in_lotus_position_medium-dark_skin_tone 🧘🏾‍♀️",
   "woman_playing_handball_medium-light_skin_tone 🤾🏼‍♀️",
   "backhand_index_pointing_right_medium_skin_tone 👉🏽",
   "man_construction_worker_medium-light_skin_tone 👷🏼‍♂️",
   "person_in_lotus_position_medium-dark_skin_tone 🧘🏾",
   "person_playing_handball_medium-light_skin_tone 🤾🏼",
   "woman_in_lotus_position_medium-light_skin_tone 🧘🏼‍♀️",
   "woman_playing_water_polo_medium-dark_skin_tone 🤽🏾‍♀️",
   "flag_for_south_georgia_&_south_sandwich_islands 🇬🇸",
   "hand_with_fingers_splayed_medium-dark_skin_tone 🖐🏾",
   "person_in_lotus_position_medium-light_skin_tone 🧘🏼",
   "person_playing_water_polo_medium-dark_skin_tone 🤽🏾",
   "woman_construction_worker_medium-dark_skin_tone 👷🏾‍♀️",
   "woman_playing_water_polo_medium-light_skin_tone 🤽🏼‍♀️",
   "backhand_index_pointing_up_medium-dark_skin_tone 👆🏾",
   "hand_with_fingers_splayed_medium-light_skin_tone 🖐🏼",
   "person_playing_water_polo_medium-light_skin_tone 🤽🏼",
   "woman_construction_worker_medium-light_skin_tone 👷🏼‍♀️",
   "backhand_index_pointing_up_medium-light_skin_tone 👆🏼",
   "backhand_index_pointing_down_medium-dark_skin_tone 👇🏾",
   "backhand_index_pointing_left_medium-dark_skin_tone 👈🏾",
   "backhand_index_pointing_down_medium-light_skin_tone 👇🏼",
   "backhand_index_pointing_left_medium-light_skin_tone 👈🏼",
   "backhand_index_pointing_right_medium-dark_skin_tone 👉🏾",
   "backhand_index_pointing_right_medium-light_skin_tone 👉🏼",
   "raised_hand_with_part_between_middle_and_ring_fingers 🖖",
   "black_left__pointing_double_triangle_with_vertical_bar ⏮",
   "black_right__pointing_double_triangle_with_vertical_bar ⏭",
   "black_right__pointing_triangle_with_double_vertical_bar ⏯"]

def readRow : List (List Char) → List (List Char × List Char)
  | name :: picture :: rest => (name, picture) :: readRow rest
  | _ => []

def emoji : List (List Char × List Char) :=
  emojiRows.flatMap fun row => readRow (Text.words row.toList)

-- The capitals beyond the first 128 characters whose small letters occur in a name.
def smallLetters : List (Char × Char) :=
  [('\u00c3', 'ã'), ('\u00c5', 'å'), ('\u00c7', 'ç'), ('\u00c9', 'é'), ('\u00cd', 'í'),
   ('\u00d4', 'ô'), ('\u212a', 'k'), ('\u212b', 'å')]

def small (c : Char) : Char :=
  ((smallLetters.find? fun letter => letter.1 == c).map (·.2)).getD c.toLower

def emojiForms : List (List Char × Char) :=
  [("-emoji".toList, '\ufe0f'), ("-text".toList, '\ufe0e')]

def emojiOf? (name : List Char) : Option (List Char) :=
  (emoji.find? fun entry => entry.1 == name.map small).map (·.2)

def readEmoji? (code : List Char) : Option (List Char) :=
  match emojiForms.find? fun form => form.1.isSuffixOf code with
  | some form => (emojiOf? (code.take (code.length - form.1.length))).map (· ++ [form.2])
  | none => emojiOf? code

/-- Replaces emoji codes. `code` holds the characters since the last colon that may open a code,
last one first, if there is one; `found` holds what comes before that colon, last one first. -/
def replaceEmojiOnto (found : List Char) (code : Option (List Char)) : List Char → List Char
  | [] =>
    (match code with
      | some code => code ++ ':' :: found
      | none => found).reverse
  | c :: rest =>
    match code with
    | none => if c == ':' then replaceEmojiOnto found (some []) rest
      else replaceEmojiOnto (c :: found) none rest
    | some code =>
      if c == ':' then
        -- The colons around what is no code are used up.
        match readEmoji? code.reverse with
        | some picture => replaceEmojiOnto (picture.reverse ++ found) none rest
        | none => replaceEmojiOnto (':' :: code ++ ':' :: found) none rest
      else if Text.isBlank c then replaceEmojiOnto (c :: code ++ ':' :: found) none rest
      else replaceEmojiOnto found (some (c :: code)) rest

def replaceEmoji (text : List Char) : List Char :=
  replaceEmojiOnto [] none text

end ArgHints.Console
