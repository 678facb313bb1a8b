/-
  This file holds the spellings of characters that Unicode 14
  holds to be compatible with others and that may stand in a
  name: ligatures, letters of another width or style, and
  letters that are kept for the sake of other standards.

  Key definitions include:
    * `LetterRun`
    * `letterRuns`
    * `SpellingRow`
    * `letterRows`
    * `spellingRows`
-/

------------------------------------------------------------
-- Runs of Letters
------------------------------------------------------------

namespace PocketDart

namespace Text

/-
  The code points from `first` to `last`, which stand for as
  many letters in a row from `image` on.
-/
structure LetterRun where
  first : Nat
  last : Nat
  image : Nat

def LetterRun.image?
    (run : LetterRun)
    (code : Nat) : Option Nat :=
  if run.first ≤ code ∧ code ≤ run.last then
    some (run.image + (code - run.first))
  else none

/- Letters of another width, style or size. -/
def letterRuns : List LetterRun :=
  [⟨0x1D33, 0x1D3A, 0x0047⟩, ⟨0x1D5D, 0x1D5F, 0x03B2⟩,
   ⟨0x1DA4, 0x1DA6, 0x0268⟩, ⟨0x1DAE, 0x1DB1, 0x0272⟩,
   ⟨0x1DBC, 0x1DBE, 0x0290⟩, ⟨0x2096, 0x2099, 0x006B⟩,
   ⟨0x2119, 0x211B, 0x0050⟩, ⟨0x2135, 0x2138, 0x05D0⟩,
   ⟨0x3137, 0x3139, 0x1103⟩, ⟨0x313A, 0x313F, 0x11B0⟩,
   ⟨0x3141, 0x3143, 0x1106⟩, ⟨0x3145, 0x314E, 0x1109⟩,
   ⟨0x314F, 0x3163, 0x1161⟩, ⟨0x3178, 0x317C, 0x112B⟩,
   ⟨0x3184, 0x3186, 0x1157⟩, ⟨0xFB24, 0xFB26, 0x05DB⟩,
   ⟨0xFF10, 0xFF19, 0x0030⟩, ⟨0xFF21, 0xFF3A, 0x0041⟩,
   ⟨0xFF41, 0xFF5A, 0x0061⟩, ⟨0xFF85, 0xFF8A, 0x30CA⟩,
   ⟨0xFF8F, 0xFF93, 0x30DE⟩, ⟨0xFF96, 0xFF9B, 0x30E8⟩,
   ⟨0xFFA7, 0xFFA9, 0x1103⟩, ⟨0xFFAA, 0xFFAF, 0x11B0⟩,
   ⟨0xFFB1, 0xFFB3, 0x1106⟩, ⟨0xFFB5, 0xFFBE, 0x1109⟩,
   ⟨0xFFC2, 0xFFC7, 0x1161⟩, ⟨0xFFCA, 0xFFCF, 0x1167⟩,
   ⟨0xFFD2, 0xFFD7, 0x116D⟩, ⟨0xFFDA, 0xFFDC, 0x1173⟩,
   ⟨0x107B6, 0x107B8, 0x01C0⟩, ⟨0x1D400, 0x1D419, 0x0041⟩,
   ⟨0x1D41A, 0x1D433, 0x0061⟩, ⟨0x1D434, 0x1D44D, 0x0041⟩,
   ⟨0x1D44E, 0x1D454, 0x0061⟩, ⟨0x1D456, 0x1D467, 0x0069⟩,
   ⟨0x1D468, 0x1D481, 0x0041⟩, ⟨0x1D482, 0x1D49B, 0x0061⟩,
   ⟨0x1D4A9, 0x1D4AC, 0x004E⟩, ⟨0x1D4AE, 0x1D4B5, 0x0053⟩,
   ⟨0x1D4B6, 0x1D4B9, 0x0061⟩, ⟨0x1D4BD, 0x1D4C3, 0x0068⟩,
   ⟨0x1D4C5, 0x1D4CF, 0x0070⟩, ⟨0x1D4D0, 0x1D4E9, 0x0041⟩,
   ⟨0x1D4EA, 0x1D503, 0x0061⟩, ⟨0x1D507, 0x1D50A, 0x0044⟩,
   ⟨0x1D50D, 0x1D514, 0x004A⟩, ⟨0x1D516, 0x1D51C, 0x0053⟩,
   ⟨0x1D51E, 0x1D537, 0x0061⟩, ⟨0x1D53B, 0x1D53E, 0x0044⟩,
   ⟨0x1D540, 0x1D544, 0x0049⟩, ⟨0x1D54A, 0x1D550, 0x0053⟩,
   ⟨0x1D552, 0x1D56B, 0x0061⟩, ⟨0x1D56C, 0x1D585, 0x0041⟩,
   ⟨0x1D586, 0x1D59F, 0x0061⟩, ⟨0x1D5A0, 0x1D5B9, 0x0041⟩,
   ⟨0x1D5BA, 0x1D5D3, 0x0061⟩, ⟨0x1D5D4, 0x1D5ED, 0x0041⟩,
   ⟨0x1D5EE, 0x1D607, 0x0061⟩, ⟨0x1D608, 0x1D621, 0x0041⟩,
   ⟨0x1D622, 0x1D63B, 0x0061⟩, ⟨0x1D63C, 0x1D655, 0x0041⟩,
   ⟨0x1D656, 0x1D66F, 0x0061⟩, ⟨0x1D670, 0x1D689, 0x0041⟩,
   ⟨0x1D68A, 0x1D6A3, 0x0061⟩, ⟨0x1D6A8, 0x1D6B8, 0x0391⟩,
   ⟨0x1D6BA, 0x1D6C0, 0x03A3⟩, ⟨0x1D6C2, 0x1D6DA, 0x03B1⟩,
   ⟨0x1D6E2, 0x1D6F2, 0x0391⟩, ⟨0x1D6F4, 0x1D6FA, 0x03A3⟩,
   ⟨0x1D6FC, 0x1D714, 0x03B1⟩, ⟨0x1D71C, 0x1D72C, 0x0391⟩,
   ⟨0x1D72E, 0x1D734, 0x03A3⟩, ⟨0x1D736, 0x1D74E, 0x03B1⟩,
   ⟨0x1D756, 0x1D766, 0x0391⟩, ⟨0x1D768, 0x1D76E, 0x03A3⟩,
   ⟨0x1D770, 0x1D788, 0x03B1⟩, ⟨0x1D790, 0x1D7A0, 0x0391⟩,
   ⟨0x1D7A2, 0x1D7A8, 0x03A3⟩, ⟨0x1D7AA, 0x1D7C2, 0x03B1⟩,
   ⟨0x1D7CE, 0x1D7D7, 0x0030⟩, ⟨0x1D7D8, 0x1D7E1, 0x0030⟩,
   ⟨0x1D7E2, 0x1D7EB, 0x0030⟩, ⟨0x1D7EC, 0x1D7F5, 0x0030⟩,
   ⟨0x1D7F6, 0x1D7FF, 0x0030⟩, ⟨0x1EE0A, 0x1EE0D, 0x0643⟩,
   ⟨0x1EE2A, 0x1EE2D, 0x0643⟩, ⟨0x1EE8B, 0x1EE8D, 0x0644⟩,
   ⟨0x1EEAB, 0x1EEAD, 0x0644⟩, ⟨0x1FBF0, 0x1FBF9, 0x0030⟩]

------------------------------------------------------------
-- Spellings One by One
------------------------------------------------------------

/- What the code points from `first` on stand for. -/
structure SpellingRow where
  first : Nat
  spellings : String

/- Letters and ideographs that stand for one other each. -/
def letterRows : List SpellingRow :=
  [⟨0x3131, "ᄀᄁᆪᄂᆬᆭ"⟩, ⟨0x3140, "ᄚ"⟩, ⟨0x3144, "ᄡ"⟩,
   ⟨0x3164, "ᅠᄔᄕᇇᇈᇌᇎᇓᇗᇙᄜᇝᇟᄝᄞᄠᄢᄣᄧᄩ"⟩,
   ⟨0x317D, "ᄲᄶᅀᅇᅌᇱᇲ"⟩, ⟨0x3187, "ᆄᆅᆈᆑᆒᆔᆞᆡ"⟩,
   ⟨0xF900, "豈更車賈滑串句龜龜契金喇奈懶癩羅蘿螺裸邏樂洛烙"⟩,
   ⟨0xF917, "珞落酪駱亂卵欄爛蘭鸞嵐濫藍襤拉臘蠟廊朗浪狼郎來"⟩,
   ⟨0xF92E, "冷勞擄櫓爐盧老蘆虜路露魯鷺碌祿綠菉錄鹿論壟弄籠"⟩,
   ⟨0xF945, "聾牢磊賂雷壘屢樓淚漏累縷陋勒肋凜凌稜綾菱陵讀拏"⟩,
   ⟨0xF95C, "樂諾丹寧怒率異北磻便復不泌數索參塞省葉說殺辰沈"⟩,
   ⟨0xF973, "拾若掠略亮兩凉梁糧良諒量勵呂女廬旅濾礪閭驪麗黎"⟩,
   ⟨0xF98A, "力曆歷轢年憐戀撚漣煉璉秊練聯輦蓮連鍊列劣咽烈裂"⟩,
   ⟨0xF9A1, "說廉念捻殮簾獵令囹寧嶺怜玲瑩羚聆鈴零靈領例禮醴"⟩,
   ⟨0xF9B8, "隸惡了僚寮尿料樂燎療蓼遼龍暈阮劉杻柳流溜琉留硫"⟩,
   ⟨0xF9CF, "紐類六戮陸倫崙淪輪律慄栗率隆利吏履易李梨泥理痢"⟩,
   ⟨0xF9E6, "罹裏裡里離匿溺吝燐璘藺隣鱗麟林淋臨立笠粒狀炙識"⟩,
   ⟨0xF9FD, "什茶刺切度拓糖宅洞暴輻行降見廓兀嗀"⟩,
   ⟨0xFA10, "塚"⟩, ⟨0xFA12, "晴"⟩,
   ⟨0xFA15, "凞猪益礼神祥福靖精羽"⟩, ⟨0xFA20, "蘒"⟩,
   ⟨0xFA22, "諸"⟩, ⟨0xFA25, "逸都"⟩,
   ⟨0xFA2A, "飯飼館鶴郞隷侮僧免勉勤卑喝嘆器塀墨層屮悔慨憎懲"⟩,
   ⟨0xFA41, "敏既暑梅海渚漢煮爫琢碑社祉祈祐祖祝禍禎穀突節練"⟩,
   ⟨0xFA58, "縉繁署者臭艹艹著褐視謁謹賓贈辶逸難響頻恵𤋮舘"⟩,
   ⟨0xFA70, "並况全侀充冀勇勺喝啕喙嗢塚墳奄奔婢嬨廒廙彩徭惘"⟩,
   ⟨0xFA87, "慎愈憎慠懲戴揄搜摒敖晴朗望杖歹殺流滛滋漢瀞煮瞧"⟩,
   ⟨0xFA9E, "爵犯猪瑱甆画瘝瘟益盛直睊着磌窱節类絛練缾者荒華"⟩,
   ⟨0xFAB5, "蝹襁覆視調諸請謁諾諭謹變贈輸遲醙鉶陼難靖韛響頋"⟩,
   ⟨0xFACC, "頻鬒龜𢡊𢡄𣏕㮝䀘䀹𥉉𥳐𧻓齃龎"⟩,
   ⟨0xFF66, "ヲァィゥェォャュョッーアイウエオカキクケコサシ"⟩,
   ⟨0xFF7D, "スセソタチツテト"⟩, ⟨0xFF8B, "ヒフヘホ"⟩,
   ⟨0xFF94, "ヤユ"⟩, ⟨0xFF9C, "ワン\u3099\u309aᅠᄀᄁᆪᄂᆬᆭ"⟩,
   ⟨0xFFB0, "ᄚ"⟩, ⟨0xFFB4, "ᄡ"⟩,
   ⟨0x2F800, "丽丸乁𠄢你侮侻倂偺備僧像㒞𠘺免兔兤具𠔜㒹內再𠕋"⟩,
   ⟨0x2F817, "冗冤仌冬况𩇟凵刃㓟刻剆割剷㔕勇勉勤勺包匆北卉卑"⟩,
   ⟨0x2F82E, "博即卽卿卿卿𠨬灰及叟𠭣叫叱吆咞吸呈周咢哶唐啓啣"⟩,
   ⟨0x2F845, "善善喙喫喳嗂圖嘆圗噑噴切壮城埴堍型堲報墬𡓤売壷"⟩,
   ⟨0x2F85C, "夆多夢奢𡚨𡛪姬娛娧姘婦㛮㛼嬈嬾嬾𡧈寃寘寧寳𡬘寿"⟩,
   ⟨0x2F873, "将当尢㞁屠屮峀岍𡷤嵃𡷦嵮嵫嵼巡巢㠯巽帨帽幩㡢𢆃"⟩,
   ⟨0x2F88A, "㡼庰庳庶廊𪎒廾𢌱𢌱舁弢弢㣇𣊸𦇚形彫㣣徚忍志忹悁"⟩,
   ⟨0x2F8A1, "㤺㤜悔𢛔惇慈慌慎慌慺憎憲憤憯懞懲懶成戛扝抱拔捐"⟩,
   ⟨0x2F8B8, "𢬌挽拼捨掃揤𢯱搢揅掩㨮摩摾撝摷㩬敏敬𣀊旣書晉㬙"⟩,
   ⟨0x2F8CF, "暑㬈㫤冒冕最暜肭䏙朗望朡杞杓𣏃㭉柺枅桒梅𣑭梎栟"⟩,
   ⟨0x2F8E6, "椔㮝楂榣槪檨𣚣櫛㰘次𣢧歔㱎歲殟殺殻𣪍𡴋𣫺汎𣲼沿"⟩,
   ⟨0x2F8FD, "泍汧洖派海流浩浸涅𣴞洴港湮㴳滋滇𣻑淹潮𣽞𣾎濆瀹"⟩,
   ⟨0x2F914, "瀞瀛㶖灊災灷炭𠔥煅𤉣熜𤎫爨爵牐𤘈犀犕𤜵𤠔獺王㺬"⟩,
   ⟨0x2F92B, "玥㺸㺸瑇瑜瑱璅瓊㼛甤𤰶甾𤲒異𢆟瘐𤾡𤾸𥁄㿼䀈直𥃳"⟩,
   ⟨0x2F942, "𥃲𥄙𥄳眞真真睊䀹瞋䁆䂖𥐝硎碌磌䃣𥘦祖𥚚𥛅福秫䄯"⟩,
   ⟨0x2F959, "穀穊穏𥥼𥪧𥪧竮䈂𥮫篆築䈧𥲀糒䊠糨糣紀𥾆絣䌁緇縂"⟩,
   ⟨0x2F970, "繅䌴𦈨𦉇䍙𦋙罺𦌾羕翺者𦓚𦔣聠𦖨聰𣍟䏕育脃䐋脾媵"⟩,
   ⟨0x2F987, "𦞧𦞵𣎓𣎜舁舄辞䑫芑芋芝劳花芳芽苦𦬼若茝荣莭茣莽"⟩,
   ⟨0x2F99E, "菧著荓菊菌菜𦰶𦵫𦳕䔫蓱蓳蔖𧏊蕤𦼬䕝䕡𦾱𧃒䕫虐虜"⟩,
   ⟨0x2F9B5, "虧虩蚩蚈蜎蛢蝹蜨蝫螆䗗蟡蠁䗹衠衣𧙧裗裞䘵裺㒻𧢮"⟩,
   ⟨0x2F9CC, "𧥦䚾䛇誠諭變豕𧲨貫賁贛起𧼯𠠄跋趼跰𠣞軔輸𨗒𨗭邔"⟩,
   ⟨0x2F9E3, "郱鄑𨜮鄛鈸鋗鋘鉼鏹鐕𨯺開䦕閷𨵷䧦雃嶲霣𩅅𩈚䩮䩶"⟩,
   ⟨0x2F9FA, "韠𩐊䪲𩒖頋頋頩𩖶飢䬳餩馧駂駾䯎𩬰鬒鱀鳽䳎䳭鵧𪃎"⟩,
   ⟨0x2FA11, "䳸𪄅𪈎𪊑麻䵖黹黾鼅鼏鼖鼻𪘀"⟩]

/- Characters with their spellings, with blanks between. -/
def spellingRows : List SpellingRow :=
  [⟨0x00AA, "a"⟩, ⟨0x00B5, "μ"⟩, ⟨0x00BA, "o"⟩,
   ⟨0x0132, "IJ ij"⟩, ⟨0x013F, "L· l·"⟩, ⟨0x0149, "ʼn"⟩,
   ⟨0x017F, "s"⟩, ⟨0x01C4, "DŽ Dž dž LJ Lj lj NJ Nj nj"⟩,
   ⟨0x01F1, "DZ Dz dz"⟩, ⟨0x02B0, "h ɦ j r ɹ ɻ ʁ w y"⟩,
   ⟨0x02E0, "ɣ l s x ʕ"⟩, ⟨0x0340, "\u0300 \u0301"⟩,
   ⟨0x0343, "\u0313 \u0308\u0301"⟩, ⟨0x0374, "ʹ"⟩,
   ⟨0x0387, "·"⟩, ⟨0x03D0, "β θ Υ Ύ Ϋ φ π"⟩,
   ⟨0x03F0, "κ ρ ς"⟩, ⟨0x03F4, "Θ ε"⟩, ⟨0x03F9, "Σ"⟩,
   ⟨0x0587, "եւ"⟩,
   ⟨0x0675, "\u0627\u0674 \u0648\u0674 \u06c7\u0674"⟩,
   ⟨0x0678, "\u064a\u0674"⟩,
   ⟨0x0958, "क\u093c ख\u093c ग\u093c ज\u093c ड\u093c"⟩,
   ⟨0x095D, "ढ\u093c फ\u093c य\u093c"⟩,
   ⟨0x09DC, "ড\u09bc ঢ\u09bc"⟩, ⟨0x09DF, "য\u09bc"⟩,
   ⟨0x0A33, "ਲ\u0a3c"⟩, ⟨0x0A36, "ਸ\u0a3c"⟩,
   ⟨0x0A59, "ਖ\u0a3c ਗ\u0a3c ਜ\u0a3c"⟩, ⟨0x0A5E, "ਫ\u0a3c"⟩,
   ⟨0x0B5C, "ଡ\u0b3c ଢ\u0b3c"⟩, ⟨0x0E33, "\u0e4dา"⟩,
   ⟨0x0EB3, "\u0ecdາ"⟩, ⟨0x0EDC, "ຫນ ຫມ"⟩,
   ⟨0x0F43, "ག\u0fb7"⟩, ⟨0x0F4D, "ཌ\u0fb7"⟩,
   ⟨0x0F52, "ད\u0fb7"⟩, ⟨0x0F57, "བ\u0fb7"⟩,
   ⟨0x0F5C, "ཛ\u0fb7"⟩, ⟨0x0F69, "ཀ\u0fb5"⟩,
   ⟨0x0F73, "\u0f71\u0f72"⟩,
   ⟨0x0F75, "\u0f71\u0f74 \u0fb2\u0f80 \u0fb2\u0f71\u0f80"⟩,
   ⟨0x0F78, "\u0fb3\u0f80 \u0fb3\u0f71\u0f80"⟩,
   ⟨0x0F81, "\u0f71\u0f80"⟩, ⟨0x0F93, "\u0f92\u0fb7"⟩,
   ⟨0x0F9D, "\u0f9c\u0fb7"⟩, ⟨0x0FA2, "\u0fa1\u0fb7"⟩,
   ⟨0x0FA7, "\u0fa6\u0fb7"⟩, ⟨0x0FAC, "\u0fab\u0fb7"⟩,
   ⟨0x0FB9, "\u0f90\u0fb5"⟩, ⟨0x10FC, "ნ"⟩,
   ⟨0x1D2C, "A Æ B"⟩, ⟨0x1D30, "D E Ǝ"⟩,
   ⟨0x1D3C, "O Ȣ P R T U W a ɐ ɑ ᴂ b d e ə ɛ ɜ g"⟩,
   ⟨0x1D4F, "k m ŋ o ɔ ᴖ ᴗ p t u ᴝ ɯ v ᴥ"⟩,
   ⟨0x1D60, "φ χ i r u v β γ ρ φ χ"⟩, ⟨0x1D78, "н"⟩,
   ⟨0x1D9B, "ɒ c ɕ ð ɜ f ɟ ɡ ɥ"⟩, ⟨0x1DA7, "ᵻ ʝ ɭ ᶅ ʟ ɱ ɰ"⟩,
   ⟨0x1DB2, "ɸ ʂ ʃ ƫ ʉ ʊ ᴜ ʋ ʌ z"⟩, ⟨0x1DBF, "θ"⟩,
   ⟨0x1E9A, "aʾ ṡ"⟩, ⟨0x1F71, "ά"⟩, ⟨0x1F73, "έ"⟩,
   ⟨0x1F75, "ή"⟩, ⟨0x1F77, "ί"⟩, ⟨0x1F79, "ό"⟩,
   ⟨0x1F7B, "ύ"⟩, ⟨0x1F7D, "ώ"⟩, ⟨0x1FBB, "Ά"⟩,
   ⟨0x1FBE, "ι"⟩, ⟨0x1FC9, "Έ"⟩, ⟨0x1FCB, "Ή"⟩,
   ⟨0x1FD3, "ΐ"⟩, ⟨0x1FDB, "Ί"⟩, ⟨0x1FE3, "ΰ"⟩,
   ⟨0x1FEB, "Ύ"⟩, ⟨0x1FF9, "Ό"⟩, ⟨0x1FFB, "Ώ"⟩,
   ⟨0x2071, "i"⟩, ⟨0x207F, "n"⟩, ⟨0x2090, "a e o x ə h"⟩,
   ⟨0x209A, "p s t"⟩, ⟨0x2102, "C"⟩, ⟨0x2107, "Ɛ"⟩,
   ⟨0x210A, "g H H H h ħ I I L l"⟩, ⟨0x2115, "N"⟩,
   ⟨0x211C, "R R"⟩, ⟨0x2124, "Z"⟩, ⟨0x2126, "Ω"⟩,
   ⟨0x2128, "Z"⟩, ⟨0x212A, "K Å B C"⟩, ⟨0x212F, "e E F"⟩,
   ⟨0x2133, "M o"⟩, ⟨0x2139, "i"⟩, ⟨0x213C, "π γ Γ Π"⟩,
   ⟨0x2145, "D d e i j"⟩,
   ⟨0x2160, "I II III IV V VI VII VIII IX X XI XII L C D"⟩,
   ⟨0x216F, "M i ii iii iv v vi vii viii ix x xi xii l c"⟩,
   ⟨0x217E, "d m"⟩, ⟨0x2C7C, "j V"⟩, ⟨0x2D6F, "ⵡ"⟩,
   ⟨0x3038, "十 卄 卅"⟩, ⟨0x309F, "より"⟩, ⟨0x30FF, "コト"⟩,
   ⟨0xA69C, "ъ ь"⟩, ⟨0xA770, "ꝯ"⟩, ⟨0xA7F2, "C F Q"⟩,
   ⟨0xA7F8, "Ħ œ"⟩, ⟨0xAB5C, "ꜧ ꬷ ɫ ꭒ"⟩, ⟨0xAB69, "ʍ"⟩,
   ⟨0xFB00, "ff fi fl ffi ffl st st"⟩,
   ⟨0xFB13, "մն մե մի վն մխ"⟩, ⟨0xFB1D, "\u05d9\u05b4"⟩,
   ⟨0xFB1F, "\u05f2\u05b7 \u05e2 \u05d0 \u05d3 \u05d4"⟩,
   ⟨0xFB27, "\u05e8 \u05ea"⟩,
   ⟨0xFB2A, "\u05e9\u05c1 \u05e9\u05c2 \u05e9\u05bc\u05c1"⟩,
   ⟨0xFB2D, "\u05e9\u05bc\u05c2 \u05d0\u05b7 \u05d0\u05b8"⟩,
   ⟨0xFB30, "\u05d0\u05bc \u05d1\u05bc \u05d2\u05bc"⟩,
   ⟨0xFB33, "\u05d3\u05bc \u05d4\u05bc \u05d5\u05bc"⟩,
   ⟨0xFB36, "\u05d6\u05bc"⟩,
   ⟨0xFB38, "\u05d8\u05bc \u05d9\u05bc \u05da\u05bc"⟩,
   ⟨0xFB3B, "\u05db\u05bc \u05dc\u05bc"⟩,
   ⟨0xFB3E, "\u05de\u05bc"⟩,
   ⟨0xFB40, "\u05e0\u05bc \u05e1\u05bc"⟩,
   ⟨0xFB43, "\u05e3\u05bc \u05e4\u05bc"⟩,
   ⟨0xFB46, "\u05e6\u05bc \u05e7\u05bc \u05e8\u05bc"⟩,
   ⟨0xFB49, "\u05e9\u05bc \u05ea\u05bc \u05d5\u05b9"⟩,
   ⟨0xFB4C, "\u05d1\u05bf \u05db\u05bf \u05e4\u05bf"⟩,
   ⟨0xFB4F, "\u05d0\u05dc \u0671 \u0671 \u067b \u067b"⟩,
   ⟨0xFB54, "\u067b \u067b \u067e \u067e \u067e \u067e"⟩,
   ⟨0xFB5A, "\u0680 \u0680 \u0680 \u0680 \u067a \u067a"⟩,
   ⟨0xFB60, "\u067a \u067a \u067f \u067f \u067f \u067f"⟩,
   ⟨0xFB66, "\u0679 \u0679 \u0679 \u0679 \u06a4 \u06a4"⟩,
   ⟨0xFB6C, "\u06a4 \u06a4 \u06a6 \u06a6 \u06a6 \u06a6"⟩,
   ⟨0xFB72, "\u0684 \u0684 \u0684 \u0684 \u0683 \u0683"⟩,
   ⟨0xFB78, "\u0683 \u0683 \u0686 \u0686 \u0686 \u0686"⟩,
   ⟨0xFB7E, "\u0687 \u0687 \u0687 \u0687 \u068d \u068d"⟩,
   ⟨0xFB84, "\u068c \u068c \u068e \u068e \u0688 \u0688"⟩,
   ⟨0xFB8A, "\u0698 \u0698 \u0691 \u0691 \u06a9 \u06a9"⟩,
   ⟨0xFB90, "\u06a9 \u06a9 \u06af \u06af \u06af \u06af"⟩,
   ⟨0xFB96, "\u06b3 \u06b3 \u06b3 \u06b3 \u06b1 \u06b1"⟩,
   ⟨0xFB9C, "\u06b1 \u06b1 \u06ba \u06ba \u06bb \u06bb"⟩,
   ⟨0xFBA2, "\u06bb \u06bb \u06c0 \u06c0 \u06c1 \u06c1"⟩,
   ⟨0xFBA8, "\u06c1 \u06c1 \u06be \u06be \u06be \u06be"⟩,
   ⟨0xFBAE, "\u06d2 \u06d2 \u06d3 \u06d3"⟩,
   ⟨0xFBD3, "\u06ad \u06ad \u06ad \u06ad \u06c7 \u06c7"⟩,
   ⟨0xFBD9, "\u06c6 \u06c6 \u06c8 \u06c8 \u06c7\u0674"⟩,
   ⟨0xFBDE, "\u06cb \u06cb \u06c5 \u06c5 \u06c9 \u06c9"⟩,
   ⟨0xFBE4, "\u06d0 \u06d0 \u06d0 \u06d0 \u0649 \u0649"⟩,
   ⟨0xFBEA, "\u0626\u0627 \u0626\u0627 \u0626\u06d5"⟩,
   ⟨0xFBED, "\u0626\u06d5 \u0626\u0648 \u0626\u0648"⟩,
   ⟨0xFBF0, "\u0626\u06c7 \u0626\u06c7 \u0626\u06c6"⟩,
   ⟨0xFBF3, "\u0626\u06c6 \u0626\u06c8 \u0626\u06c8"⟩,
   ⟨0xFBF6, "\u0626\u06d0 \u0626\u06d0 \u0626\u06d0"⟩,
   ⟨0xFBF9, "\u0626\u0649 \u0626\u0649 \u0626\u0649"⟩,
   ⟨0xFBFC, "\u06cc \u06cc \u06cc \u06cc \u0626\u062c"⟩,
   ⟨0xFC01, "\u0626\u062d \u0626\u0645 \u0626\u0649"⟩,
   ⟨0xFC04, "\u0626\u064a \u0628\u062c \u0628\u062d"⟩,
   ⟨0xFC07, "\u0628\u062e \u0628\u0645 \u0628\u0649"⟩,
   ⟨0xFC0A, "\u0628\u064a \u062a\u062c \u062a\u062d"⟩,
   ⟨0xFC0D, "\u062a\u062e \u062a\u0645 \u062a\u0649"⟩,
   ⟨0xFC10, "\u062a\u064a \u062b\u062c \u062b\u0645"⟩,
   ⟨0xFC13, "\u062b\u0649 \u062b\u064a \u062c\u062d"⟩,
   ⟨0xFC16, "\u062c\u0645 \u062d\u062c \u062d\u0645"⟩,
   ⟨0xFC19, "\u062e\u062c \u062e\u062d \u062e\u0645"⟩,
   ⟨0xFC1C, "\u0633\u062c \u0633\u062d \u0633\u062e"⟩,
   ⟨0xFC1F, "\u0633\u0645 \u0635\u062d \u0635\u0645"⟩,
   ⟨0xFC22, "\u0636\u062c \u0636\u062d \u0636\u062e"⟩,
   ⟨0xFC25, "\u0636\u0645 \u0637\u062d \u0637\u0645"⟩,
   ⟨0xFC28, "\u0638\u0645 \u0639\u062c \u0639\u0645"⟩,
   ⟨0xFC2B, "\u063a\u062c \u063a\u0645 \u0641\u062c"⟩,
   ⟨0xFC2E, "\u0641\u062d \u0641\u062e \u0641\u0645"⟩,
   ⟨0xFC31, "\u0641\u0649 \u0641\u064a \u0642\u062d"⟩,
   ⟨0xFC34, "\u0642\u0645 \u0642\u0649 \u0642\u064a"⟩,
   ⟨0xFC37, "\u0643\u0627 \u0643\u062c \u0643\u062d"⟩,
   ⟨0xFC3A, "\u0643\u062e \u0643\u0644 \u0643\u0645"⟩,
   ⟨0xFC3D, "\u0643\u0649 \u0643\u064a \u0644\u062c"⟩,
   ⟨0xFC40, "\u0644\u062d \u0644\u062e \u0644\u0645"⟩,
   ⟨0xFC43, "\u0644\u0649 \u0644\u064a \u0645\u062c"⟩,
   ⟨0xFC46, "\u0645\u062d \u0645\u062e \u0645\u0645"⟩,
   ⟨0xFC49, "\u0645\u0649 \u0645\u064a \u0646\u062c"⟩,
   ⟨0xFC4C, "\u0646\u062d \u0646\u062e \u0646\u0645"⟩,
   ⟨0xFC4F, "\u0646\u0649 \u0646\u064a \u0647\u062c"⟩,
   ⟨0xFC52, "\u0647\u0645 \u0647\u0649 \u0647\u064a"⟩,
   ⟨0xFC55, "\u064a\u062c \u064a\u062d \u064a\u062e"⟩,
   ⟨0xFC58, "\u064a\u0645 \u064a\u0649 \u064a\u064a"⟩,
   ⟨0xFC5B, "\u0630\u0670 \u0631\u0670 \u0649\u0670"⟩,
   ⟨0xFC64, "\u0626\u0631 \u0626\u0632 \u0626\u0645"⟩,
   ⟨0xFC67, "\u0626\u0646 \u0626\u0649 \u0626\u064a"⟩,
   ⟨0xFC6A, "\u0628\u0631 \u0628\u0632 \u0628\u0645"⟩,
   ⟨0xFC6D, "\u0628\u0646 \u0628\u0649 \u0628\u064a"⟩,
   ⟨0xFC70, "\u062a\u0631 \u062a\u0632 \u062a\u0645"⟩,
   ⟨0xFC73, "\u062a\u0646 \u062a\u0649 \u062a\u064a"⟩,
   ⟨0xFC76, "\u062b\u0631 \u062b\u0632 \u062b\u0645"⟩,
   ⟨0xFC79, "\u062b\u0646 \u062b\u0649 \u062b\u064a"⟩,
   ⟨0xFC7C, "\u0641\u0649 \u0641\u064a \u0642\u0649"⟩,
   ⟨0xFC7F, "\u0642\u064a \u0643\u0627 \u0643\u0644"⟩,
   ⟨0xFC82, "\u0643\u0645 \u0643\u0649 \u0643\u064a"⟩,
   ⟨0xFC85, "\u0644\u0645 \u0644\u0649 \u0644\u064a"⟩,
   ⟨0xFC88, "\u0645\u0627 \u0645\u0645 \u0646\u0631"⟩,
   ⟨0xFC8B, "\u0646\u0632 \u0646\u0645 \u0646\u0646"⟩,
   ⟨0xFC8E, "\u0646\u0649 \u0646\u064a \u0649\u0670"⟩,
   ⟨0xFC91, "\u064a\u0631 \u064a\u0632 \u064a\u0645"⟩,
   ⟨0xFC94, "\u064a\u0646 \u064a\u0649 \u064a\u064a"⟩,
   ⟨0xFC97, "\u0626\u062c \u0626\u062d \u0626\u062e"⟩,
   ⟨0xFC9A, "\u0626\u0645 \u0626\u0647 \u0628\u062c"⟩,
   ⟨0xFC9D, "\u0628\u062d \u0628\u062e \u0628\u0645"⟩,
   ⟨0xFCA0, "\u0628\u0647 \u062a\u062c \u062a\u062d"⟩,
   ⟨0xFCA3, "\u062a\u062e \u062a\u0645 \u062a\u0647"⟩,
   ⟨0xFCA6, "\u062b\u0645 \u062c\u062d \u062c\u0645"⟩,
   ⟨0xFCA9, "\u062d\u062c \u062d\u0645 \u062e\u062c"⟩,
   ⟨0xFCAC, "\u062e\u0645 \u0633\u062c \u0633\u062d"⟩,
   ⟨0xFCAF, "\u0633\u062e \u0633\u0645 \u0635\u062d"⟩,
   ⟨0xFCB2, "\u0635\u062e \u0635\u0645 \u0636\u062c"⟩,
   ⟨0xFCB5, "\u0636\u062d \u0636\u062e \u0636\u0645"⟩,
   ⟨0xFCB8, "\u0637\u062d \u0638\u0645 \u0639\u062c"⟩,
   ⟨0xFCBB, "\u0639\u0645 \u063a\u062c \u063a\u0645"⟩,
   ⟨0xFCBE, "\u0641\u062c \u0641\u062d \u0641\u062e"⟩,
   ⟨0xFCC1, "\u0641\u0645 \u0642\u062d \u0642\u0645"⟩,
   ⟨0xFCC4, "\u0643\u062c \u0643\u062d \u0643\u062e"⟩,
   ⟨0xFCC7, "\u0643\u0644 \u0643\u0645 \u0644\u062c"⟩,
   ⟨0xFCCA, "\u0644\u062d \u0644\u062e \u0644\u0645"⟩,
   ⟨0xFCCD, "\u0644\u0647 \u0645\u062c \u0645\u062d"⟩,
   ⟨0xFCD0, "\u0645\u062e \u0645\u0645 \u0646\u062c"⟩,
   ⟨0xFCD3, "\u0646\u062d \u0646\u062e \u0646\u0645"⟩,
   ⟨0xFCD6, "\u0646\u0647 \u0647\u062c \u0647\u0645"⟩,
   ⟨0xFCD9, "\u0647\u0670 \u064a\u062c \u064a\u062d"⟩,
   ⟨0xFCDC, "\u064a\u062e \u064a\u0645 \u064a\u0647"⟩,
   ⟨0xFCDF, "\u0626\u0645 \u0626\u0647 \u0628\u0645"⟩,
   ⟨0xFCE2, "\u0628\u0647 \u062a\u0645 \u062a\u0647"⟩,
   ⟨0xFCE5, "\u062b\u0645 \u062b\u0647 \u0633\u0645"⟩,
   ⟨0xFCE8, "\u0633\u0647 \u0634\u0645 \u0634\u0647"⟩,
   ⟨0xFCEB, "\u0643\u0644 \u0643\u0645 \u0644\u0645"⟩,
   ⟨0xFCEE, "\u0646\u0645 \u0646\u0647 \u064a\u0645"⟩,
   ⟨0xFCF1, "\u064a\u0647 \u0640\u064e\u0651"⟩,
   ⟨0xFCF3, "\u0640\u064f\u0651 \u0640\u0650\u0651"⟩,
   ⟨0xFCF5, "\u0637\u0649 \u0637\u064a \u0639\u0649"⟩,
   ⟨0xFCF8, "\u0639\u064a \u063a\u0649 \u063a\u064a"⟩,
   ⟨0xFCFB, "\u0633\u0649 \u0633\u064a \u0634\u0649"⟩,
   ⟨0xFCFE, "\u0634\u064a \u062d\u0649 \u062d\u064a"⟩,
   ⟨0xFD01, "\u062c\u0649 \u062c\u064a \u062e\u0649"⟩,
   ⟨0xFD04, "\u062e\u064a \u0635\u0649 \u0635\u064a"⟩,
   ⟨0xFD07, "\u0636\u0649 \u0636\u064a \u0634\u062c"⟩,
   ⟨0xFD0A, "\u0634\u062d \u0634\u062e \u0634\u0645"⟩,
   ⟨0xFD0D, "\u0634\u0631 \u0633\u0631 \u0635\u0631"⟩,
   ⟨0xFD10, "\u0636\u0631 \u0637\u0649 \u0637\u064a"⟩,
   ⟨0xFD13, "\u0639\u0649 \u0639\u064a \u063a\u0649"⟩,
   ⟨0xFD16, "\u063a\u064a \u0633\u0649 \u0633\u064a"⟩,
   ⟨0xFD19, "\u0634\u0649 \u0634\u064a \u062d\u0649"⟩,
   ⟨0xFD1C, "\u062d\u064a \u062c\u0649 \u062c\u064a"⟩,
   ⟨0xFD1F, "\u062e\u0649 \u062e\u064a \u0635\u0649"⟩,
   ⟨0xFD22, "\u0635\u064a \u0636\u0649 \u0636\u064a"⟩,
   ⟨0xFD25, "\u0634\u062c \u0634\u062d \u0634\u062e"⟩,
   ⟨0xFD28, "\u0634\u0645 \u0634\u0631 \u0633\u0631"⟩,
   ⟨0xFD2B, "\u0635\u0631 \u0636\u0631 \u0634\u062c"⟩,
   ⟨0xFD2E, "\u0634\u062d \u0634\u062e \u0634\u0645"⟩,
   ⟨0xFD31, "\u0633\u0647 \u0634\u0647 \u0637\u0645"⟩,
   ⟨0xFD34, "\u0633\u062c \u0633\u062d \u0633\u062e"⟩,
   ⟨0xFD37, "\u0634\u062c \u0634\u062d \u0634\u062e"⟩,
   ⟨0xFD3A, "\u0637\u0645 \u0638\u0645 \u0627\u064b"⟩,
   ⟨0xFD3D, "\u0627\u064b"⟩,
   ⟨0xFD50, "\u062a\u062c\u0645 \u062a\u062d\u062c"⟩,
   ⟨0xFD52, "\u062a\u062d\u062c \u062a\u062d\u0645"⟩,
   ⟨0xFD54, "\u062a\u062e\u0645 \u062a\u0645\u062c"⟩,
   ⟨0xFD56, "\u062a\u0645\u062d \u062a\u0645\u062e"⟩,
   ⟨0xFD58, "\u062c\u0645\u062d \u062c\u0645\u062d"⟩,
   ⟨0xFD5A, "\u062d\u0645\u064a \u062d\u0645\u0649"⟩,
   ⟨0xFD5C, "\u0633\u062d\u062c \u0633\u062c\u062d"⟩,
   ⟨0xFD5E, "\u0633\u062c\u0649 \u0633\u0645\u062d"⟩,
   ⟨0xFD60, "\u0633\u0645\u062d \u0633\u0645\u062c"⟩,
   ⟨0xFD62, "\u0633\u0645\u0645 \u0633\u0645\u0645"⟩,
   ⟨0xFD64, "\u0635\u062d\u062d \u0635\u062d\u062d"⟩,
   ⟨0xFD66, "\u0635\u0645\u0645 \u0634\u062d\u0645"⟩,
   ⟨0xFD68, "\u0634\u062d\u0645 \u0634\u062c\u064a"⟩,
   ⟨0xFD6A, "\u0634\u0645\u062e \u0634\u0645\u062e"⟩,
   ⟨0xFD6C, "\u0634\u0645\u0645 \u0634\u0645\u0645"⟩,
   ⟨0xFD6E, "\u0636\u062d\u0649 \u0636\u062e\u0645"⟩,
   ⟨0xFD70, "\u0636\u062e\u0645 \u0637\u0645\u062d"⟩,
   ⟨0xFD72, "\u0637\u0645\u062d \u0637\u0645\u0645"⟩,
   ⟨0xFD74, "\u0637\u0645\u064a \u0639\u062c\u0645"⟩,
   ⟨0xFD76, "\u0639\u0645\u0645 \u0639\u0645\u0645"⟩,
   ⟨0xFD78, "\u0639\u0645\u0649 \u063a\u0645\u0645"⟩,
   ⟨0xFD7A, "\u063a\u0645\u064a \u063a\u0645\u0649"⟩,
   ⟨0xFD7C, "\u0641\u062e\u0645 \u0641\u062e\u0645"⟩,
   ⟨0xFD7E, "\u0642\u0645\u062d \u0642\u0645\u0645"⟩,
   ⟨0xFD80, "\u0644\u062d\u0645 \u0644\u062d\u064a"⟩,
   ⟨0xFD82, "\u0644\u062d\u0649 \u0644\u062c\u062c"⟩,
   ⟨0xFD84, "\u0644\u062c\u062c \u0644\u062e\u0645"⟩,
   ⟨0xFD86, "\u0644\u062e\u0645 \u0644\u0645\u062d"⟩,
   ⟨0xFD88, "\u0644\u0645\u062d \u0645\u062d\u062c"⟩,
   ⟨0xFD8A, "\u0645\u062d\u0645 \u0645\u062d\u064a"⟩,
   ⟨0xFD8C, "\u0645\u062c\u062d \u0645\u062c\u0645"⟩,
   ⟨0xFD8E, "\u0645\u062e\u062c \u0645\u062e\u0645"⟩,
   ⟨0xFD92, "\u0645\u062c\u062e \u0647\u0645\u062c"⟩,
   ⟨0xFD94, "\u0647\u0645\u0645 \u0646\u062d\u0645"⟩,
   ⟨0xFD96, "\u0646\u062d\u0649 \u0646\u062c\u0645"⟩,
   ⟨0xFD98, "\u0646\u062c\u0645 \u0646\u062c\u0649"⟩,
   ⟨0xFD9A, "\u0646\u0645\u064a \u0646\u0645\u0649"⟩,
   ⟨0xFD9C, "\u064a\u0645\u0645 \u064a\u0645\u0645"⟩,
   ⟨0xFD9E, "\u0628\u062e\u064a \u062a\u062c\u064a"⟩,
   ⟨0xFDA0, "\u062a\u062c\u0649 \u062a\u062e\u064a"⟩,
   ⟨0xFDA2, "\u062a\u062e\u0649 \u062a\u0645\u064a"⟩,
   ⟨0xFDA4, "\u062a\u0645\u0649 \u062c\u0645\u064a"⟩,
   ⟨0xFDA6, "\u062c\u062d\u0649 \u062c\u0645\u0649"⟩,
   ⟨0xFDA8, "\u0633\u062e\u0649 \u0635\u062d\u064a"⟩,
   ⟨0xFDAA, "\u0634\u062d\u064a \u0636\u062d\u064a"⟩,
   ⟨0xFDAC, "\u0644\u062c\u064a \u0644\u0645\u064a"⟩,
   ⟨0xFDAE, "\u064a\u062d\u064a \u064a\u062c\u064a"⟩,
   ⟨0xFDB0, "\u064a\u0645\u064a \u0645\u0645\u064a"⟩,
   ⟨0xFDB2, "\u0642\u0645\u064a \u0646\u062d\u064a"⟩,
   ⟨0xFDB4, "\u0642\u0645\u062d \u0644\u062d\u0645"⟩,
   ⟨0xFDB6, "\u0639\u0645\u064a \u0643\u0645\u064a"⟩,
   ⟨0xFDB8, "\u0646\u062c\u062d \u0645\u062e\u064a"⟩,
   ⟨0xFDBA, "\u0644\u062c\u0645 \u0643\u0645\u0645"⟩,
   ⟨0xFDBC, "\u0644\u062c\u0645 \u0646\u062c\u062d"⟩,
   ⟨0xFDBE, "\u062c\u062d\u064a \u062d\u062c\u064a"⟩,
   ⟨0xFDC0, "\u0645\u062c\u064a \u0641\u0645\u064a"⟩,
   ⟨0xFDC2, "\u0628\u062d\u064a \u0643\u0645\u0645"⟩,
   ⟨0xFDC4, "\u0639\u062c\u0645 \u0635\u0645\u0645"⟩,
   ⟨0xFDC6, "\u0633\u062e\u064a \u0646\u062c\u064a"⟩,
   ⟨0xFDF0, "\u0635\u0644\u06d2 \u0642\u0644\u06d2"⟩,
   ⟨0xFDF2, "\u0627\u0644\u0644\u0647"⟩,
   ⟨0xFDF3, "\u0627\u0643\u0628\u0631"⟩,
   ⟨0xFDF4, "\u0645\u062d\u0645\u062f"⟩,
   ⟨0xFDF5, "\u0635\u0644\u0639\u0645"⟩,
   ⟨0xFDF6, "\u0631\u0633\u0648\u0644"⟩,
   ⟨0xFDF7, "\u0639\u0644\u064a\u0647"⟩,
   ⟨0xFDF8, "\u0648\u0633\u0644\u0645 \u0635\u0644\u0649"⟩,
   ⟨0xFE33, "_ _"⟩, ⟨0xFE4D, "_ _ _"⟩,
   ⟨0xFE71, "\u0640\u064b"⟩, ⟨0xFE77, "\u0640\u064e"⟩,
   ⟨0xFE79, "\u0640\u064f"⟩, ⟨0xFE7B, "\u0640\u0650"⟩,
   ⟨0xFE7D, "\u0640\u0651"⟩,
   ⟨0xFE7F, "\u0640\u0652 \u0621 \u0622 \u0622 \u0623"⟩,
   ⟨0xFE84, "\u0623 \u0624 \u0624 \u0625 \u0625 \u0626"⟩,
   ⟨0xFE8A, "\u0626 \u0626 \u0626 \u0627 \u0627 \u0628"⟩,
   ⟨0xFE90, "\u0628 \u0628 \u0628 \u0629 \u0629 \u062a"⟩,
   ⟨0xFE96, "\u062a \u062a \u062a \u062b \u062b \u062b"⟩,
   ⟨0xFE9C, "\u062b \u062c \u062c \u062c \u062c \u062d"⟩,
   ⟨0xFEA2, "\u062d \u062d \u062d \u062e \u062e \u062e"⟩,
   ⟨0xFEA8, "\u062e \u062f \u062f \u0630 \u0630 \u0631"⟩,
   ⟨0xFEAE, "\u0631 \u0632 \u0632 \u0633 \u0633 \u0633"⟩,
   ⟨0xFEB4, "\u0633 \u0634 \u0634 \u0634 \u0634 \u0635"⟩,
   ⟨0xFEBA, "\u0635 \u0635 \u0635 \u0636 \u0636 \u0636"⟩,
   ⟨0xFEC0, "\u0636 \u0637 \u0637 \u0637 \u0637 \u0638"⟩,
   ⟨0xFEC6, "\u0638 \u0638 \u0638 \u0639 \u0639 \u0639"⟩,
   ⟨0xFECC, "\u0639 \u063a \u063a \u063a \u063a \u0641"⟩,
   ⟨0xFED2, "\u0641 \u0641 \u0641 \u0642 \u0642 \u0642"⟩,
   ⟨0xFED8, "\u0642 \u0643 \u0643 \u0643 \u0643 \u0644"⟩,
   ⟨0xFEDE, "\u0644 \u0644 \u0644 \u0645 \u0645 \u0645"⟩,
   ⟨0xFEE4, "\u0645 \u0646 \u0646 \u0646 \u0646 \u0647"⟩,
   ⟨0xFEEA, "\u0647 \u0647 \u0647 \u0648 \u0648 \u0649"⟩,
   ⟨0xFEF0, "\u0649 \u064a \u064a \u064a \u064a"⟩,
   ⟨0xFEF5, "\u0644\u0622 \u0644\u0622 \u0644\u0623"⟩,
   ⟨0xFEF8, "\u0644\u0623 \u0644\u0625 \u0644\u0625"⟩,
   ⟨0xFEFB, "\u0644\u0627 \u0644\u0627"⟩, ⟨0xFF3F, "_"⟩,
   ⟨0x10781, "ː ˑ æ ʙ ɓ"⟩,
   ⟨0x10787, "ʣ ꭦ ʥ ʤ ɖ ɗ ᶑ ɘ ɞ ʩ ɤ ɢ ɠ ʛ ħ ʜ ɧ ʄ ʪ ʫ ɬ 𝼄"⟩,
   ⟨0x1079D, "ꞎ ɮ 𝼅 ʎ 𝼆 ø ɶ ɷ q ɺ 𝼈 ɽ ɾ ʀ ʨ ʦ ꭧ ʧ ʈ ⱱ"⟩,
   ⟨0x107B2, "ʏ ʡ ʢ ʘ"⟩, ⟨0x107B9, "𝼊 𝼞"⟩, ⟨0x1D49C, "A"⟩,
   ⟨0x1D49E, "C D"⟩, ⟨0x1D4A2, "G"⟩, ⟨0x1D4A5, "J K"⟩,
   ⟨0x1D4BB, "f"⟩, ⟨0x1D504, "A B"⟩, ⟨0x1D538, "A B"⟩,
   ⟨0x1D546, "O"⟩, ⟨0x1D6A4, "ı ȷ"⟩, ⟨0x1D6B9, "Θ"⟩,
   ⟨0x1D6DC, "ε θ κ φ ρ π"⟩, ⟨0x1D6F3, "Θ"⟩,
   ⟨0x1D716, "ε θ κ φ ρ π"⟩, ⟨0x1D72D, "Θ"⟩,
   ⟨0x1D750, "ε θ κ φ ρ π"⟩, ⟨0x1D767, "Θ"⟩,
   ⟨0x1D78A, "ε θ κ φ ρ π"⟩, ⟨0x1D7A1, "Θ"⟩,
   ⟨0x1D7C4, "ε θ κ φ ρ π Ϝ ϝ"⟩,
   ⟨0x1EE00, "\u0627 \u0628 \u062c \u062f"⟩,
   ⟨0x1EE05, "\u0648 \u0632 \u062d \u0637 \u064a"⟩,
   ⟨0x1EE0E, "\u0633 \u0639 \u0641 \u0635 \u0642 \u0631"⟩,
   ⟨0x1EE14, "\u0634 \u062a \u062b \u062e \u0630 \u0636"⟩,
   ⟨0x1EE1A, "\u0638 \u063a \u066e \u06ba \u06a1 \u066f"⟩,
   ⟨0x1EE21, "\u0628 \u062c"⟩, ⟨0x1EE24, "\u0647"⟩,
   ⟨0x1EE27, "\u062d"⟩, ⟨0x1EE29, "\u064a"⟩,
   ⟨0x1EE2E, "\u0633 \u0639 \u0641 \u0635 \u0642"⟩,
   ⟨0x1EE34, "\u0634 \u062a \u062b \u062e"⟩,
   ⟨0x1EE39, "\u0636"⟩, ⟨0x1EE3B, "\u063a"⟩,
   ⟨0x1EE42, "\u062c"⟩, ⟨0x1EE47, "\u062d"⟩,
   ⟨0x1EE49, "\u064a"⟩, ⟨0x1EE4B, "\u0644"⟩,
   ⟨0x1EE4D, "\u0646 \u0633 \u0639"⟩,
   ⟨0x1EE51, "\u0635 \u0642"⟩, ⟨0x1EE54, "\u0634"⟩,
   ⟨0x1EE57, "\u062e"⟩, ⟨0x1EE59, "\u0636"⟩,
   ⟨0x1EE5B, "\u063a"⟩, ⟨0x1EE5D, "\u06ba"⟩,
   ⟨0x1EE5F, "\u066f"⟩, ⟨0x1EE61, "\u0628 \u062c"⟩,
   ⟨0x1EE64, "\u0647"⟩,
   ⟨0x1EE67, "\u062d \u0637 \u064a \u0643"⟩,
   ⟨0x1EE6C, "\u0645 \u0646 \u0633 \u0639 \u0641 \u0635"⟩,
   ⟨0x1EE72, "\u0642"⟩,
   ⟨0x1EE74, "\u0634 \u062a \u062b \u062e"⟩,
   ⟨0x1EE79, "\u0636 \u0638 \u063a \u066e"⟩,
   ⟨0x1EE7E, "\u06a1"⟩,
   ⟨0x1EE80, "\u0627 \u0628 \u062c \u062f \u0647 \u0648"⟩,
   ⟨0x1EE86, "\u0632 \u062d \u0637 \u064a"⟩,
   ⟨0x1EE8E, "\u0633 \u0639 \u0641 \u0635 \u0642 \u0631"⟩,
   ⟨0x1EE94, "\u0634 \u062a \u062b \u062e \u0630 \u0636"⟩,
   ⟨0x1EE9A, "\u0638 \u063a"⟩,
   ⟨0x1EEA1, "\u0628 \u062c \u062f"⟩,
   ⟨0x1EEA5, "\u0648 \u0632 \u062d \u0637 \u064a"⟩,
   ⟨0x1EEAE, "\u0633 \u0639 \u0641 \u0635 \u0642 \u0631"⟩,
   ⟨0x1EEB4, "\u0634 \u062a \u062b \u062e \u0630 \u0636"⟩,
   ⟨0x1EEBA, "\u0638 \u063a"⟩]

end Text

end PocketDart
