import Restyle.Text.Basic
import Restyle.Text.Composed

/-!
# Compatible texts

Some characters differ from others in their looks alone: they are wider, smaller, raised, set in
another type, put into a circle or a square, or joined. Here is what such characters stand for,
in small letters. What a character stands for is composed.
-/
namespace Restyle.Text

/-- Characters, and the characters which they stand for. -/
def plainerRows : List (String × String) :=
  [("\u00a0ª²³µ¹ºſʰʱʲʳʴʵʶʷʸˠˡˢˣˤ̀́̓ͅʹ;·ςϐϑϒϓϔϕϖϰϱϲ", " a23μ1oshɦjrɹɻʁwyɣlsxʕ̀́̓ιʹ;·σβθυύϋφπκρσ"),
   ("ϵ༌ẛάέήίόύώιΐΰ`\u2000\u2001\u2002\u2003\u2004\u2005\u2006\u2007", "ε་ṡάέήίόύώιΐΰ`        "),
   ("\u2008\u2009\u200a‑․\u202f\u205f⁰ⁱ⁴⁵⁶⁷⁸⁹⁺⁻⁼⁽⁾ⁿ₀₁₂₃₄₅₆₇₈", "   ‐.  0i456789+−=()n012345678"),
   ("₉₊₋₌₍₎ℂℇℊℋℌℍℎℏℐℑℒℓℕℙℚℛℜℝℤℨℬℭℯℰℱℳℴℵℶℷℸℹℽℾℿ⅀ⅅ", "9+−=()cɛghhhhħiillnpqrrrzzbceefmoאבגדiγγπ∑d"),
   ("ⅆⅇⅈⅉⅰⅴⅹⅼⅽⅾⅿ〈〉①②③④⑤⑥⑦⑧⑨ⓐⓑⓒⓓⓔⓕⓖⓗⓘⓙⓚⓛⓜⓝⓞⓟⓠⓡⓢⓣⓤ", "deijivxlcdm〈〉123456789abcdefghijklmnopqrstu"),
   ("ⓥⓦⓧⓨⓩ⓪⺟⻳⼀⼁⼂⼃⼄⼅⼆⼇⼈⼉⼊⼋⼌⼍⼎⼏⼐⼑⼒⼓⼔⼕⼖⼗⼘⼙⼚⼛⼜⼝⼞⼟⼠⼡⼢", "vwxyz0母龟一丨丶丿乙亅二亠人儿入八冂冖冫几凵刀力勹匕匚匸十卜卩厂厶又口囗土士夂夊"),
   ("⼣⼤⼥⼦⼧⼨⼩⼪⼫⼬⼭⼮⼯⼰⼱⼲⼳⼴⼵⼶⼷⼸⼹⼺⼻⼼⼽⼾⼿⽀⽁⽂⽃⽄⽅⽆⽇⽈⽉⽊⽋⽌⽍", "夕大女子宀寸小尢尸屮山巛工己巾干幺广廴廾弋弓彐彡彳心戈戶手支攴文斗斤方无日曰月木欠止歹"),
   ("⽎⽏⽐⽑⽒⽓⽔⽕⽖⽗⽘⽙⽚⽛⽜⽝⽞⽟⽠⽡⽢⽣⽤⽥⽦⽧⽨⽩⽪⽫⽬⽭⽮⽯⽰⽱⽲⽳⽴⽵⽶⽷⽸", "殳毋比毛氏气水火爪父爻爿片牙牛犬玄玉瓜瓦甘生用田疋疒癶白皮皿目矛矢石示禸禾穴立竹米糸缶"),
   ("⽹⽺⽻⽼⽽⽾⽿⾀⾁⾂⾃⾄⾅⾆⾇⾈⾉⾊⾋⾌⾍⾎⾏⾐⾑⾒⾓⾔⾕⾖⾗⾘⾙⾚⾛⾜⾝⾞⾟⾠⾡⾢⾣", "网羊羽老而耒耳聿肉臣自至臼舌舛舟艮色艸虍虫血行衣襾見角言谷豆豕豸貝赤走足身車辛辰辵邑酉"),
   ("⾤⾥⾦⾧⾨⾩⾪⾫⾬⾭⾮⾯⾰⾱⾲⾳⾴⾵⾶⾷⾸⾹⾺⾻⾼⾽⾾⾿⿀⿁⿂⿃⿄⿅⿆⿇⿈⿉⿊⿋⿌⿍⿎", "釆里金長門阜隶隹雨靑非面革韋韭音頁風飛食首香馬骨高髟鬥鬯鬲鬼魚鳥鹵鹿麥麻黃黍黑黹黽鼎鼓"),
   ("⿏⿐⿑⿒⿓⿔⿕\u3000〶〸〹〺ㄱㄲㄳㄴㄵㄶㄷㄸㄹㄺㄻㄼㄽㄾㄿㅀㅁㅂㅃㅄㅅㅆㅇㅈㅉㅊㅋㅌ", "鼠鼻齊齒龍龜龠 〒十卄卅ᄀᄁᆪᄂᆬᆭᄃᄄᄅᆰᆱᆲᆳᆴᆵᄚᄆᄇᄈᄡᄉᄊᄋᄌᄍᄎᄏᄐ"),
   ("ㅍㅎㅏㅐㅑㅒㅓㅔㅕㅖㅗㅘㅙㅚㅛㅜㅝㅞㅟㅠㅡㅢㅣㅤㅥㅦㅧㅨㅩㅪㅫㅬㅭㅮㅯㅰㅱㅲㅳㅴㅵㅶㅷ", "ᄑ하ᅢᅣᅤᅥᅦᅧᅨᅩᅪᅫᅬᅭᅮᅯᅰᅱᅲᅳᅴᅵᅠᄔᄕᇇᇈᇌᇎᇓᇗᇙᄜᇝᇟᄝᄞᄠᄢᄣᄧᄩ"),
   ("ㅸㅹㅺㅻㅼㅽㅾㅿㆀㆁㆂㆃㆄㆅㆆㆇㆈㆉㆊㆋㆌㆍㆎ㆒㆓㆔㆕㆖㆗㆘㆙㆚㆛㆜㆝㆞㆟㉠㉡㉢㉣㉤㉥", "ᄫᄬᄭᄮᄯᄲᄶᅀᅇᅌᇱᇲᅗᅘᅙᆄᆅᆈᆑᆒᆔᆞᆡ一二三四上中下甲乙丙丁天地人ᄀᄂᄃᄅᄆᄇ"),
   ("㉦㉧㉨㉩㉪㉫㉬㉭㉮㉯㉰㉱㉲㉳㉴㉵㉶㉷㉸㉹㉺㉻㊀㊁㊂㊃㊄㊅㊆㊇㊈㊉㊊㊋㊌㊍㊎㊏㊐㊑㊒㊓㊔", "ᄉᄋᄌᄎᄏᄐᄑᄒ가나다라마바사아자차카타파하一二三四五六七八九十月火水木金土日株有社名"),
   ("㊕㊖㊗㊘㊙㊚㊛㊜㊝㊞㊟㊠㊡㊢㊣㊤㊥㊦㊧㊨㊩㊪㊫㊬㊭㊮㊯㊰㋐㋑㋒㋓㋔㋕㋖㋗㋘㋙㋚㋛㋜㋝㋞", "特財祝労秘男女適優印注項休写正上中下左右医宗学監企資協夜アイウエオカキクケコサシスセソ"),
   ("㋟㋠㋡㋢㋣㋤㋥㋦㋧㋨㋩㋪㋫㋬㋭㋮㋯㋰㋱㋲㋳㋴㋵㋶㋷㋸㋹㋺㋻㋼㋽㋾豈更車賈滑串句龜龜契金", "タチツテトナニヌネノハヒフヘホマミムメモヤユヨラリルレロワヰヱヲ豈更車賈滑串句龜龜契金"),
   ("喇奈懶癩羅蘿螺裸邏樂洛烙珞落酪駱亂卵欄爛蘭鸞嵐濫藍襤拉臘蠟廊朗浪狼郎來冷勞擄櫓爐盧老蘆", "喇奈懶癩羅蘿螺裸邏樂洛烙珞落酪駱亂卵欄爛蘭鸞嵐濫藍襤拉臘蠟廊朗浪狼郎來冷勞擄櫓爐盧老蘆"),
   ("虜路露魯鷺碌祿綠菉錄鹿論壟弄籠聾牢磊賂雷壘屢樓淚漏累縷陋勒肋凜凌稜綾菱陵讀拏樂諾丹寧怒", "虜路露魯鷺碌祿綠菉錄鹿論壟弄籠聾牢磊賂雷壘屢樓淚漏累縷陋勒肋凜凌稜綾菱陵讀拏樂諾丹寧怒"),
   ("率異北磻便復不泌數索參塞省葉說殺辰沈拾若掠略亮兩凉梁糧良諒量勵呂女廬旅濾礪閭驪麗黎力曆", "率異北磻便復不泌數索參塞省葉說殺辰沈拾若掠略亮兩凉梁糧良諒量勵呂女廬旅濾礪閭驪麗黎力曆"),
   ("歷轢年憐戀撚漣煉璉秊練聯輦蓮連鍊列劣咽烈裂說廉念捻殮簾獵令囹寧嶺怜玲瑩羚聆鈴零靈領例禮", "歷轢年憐戀撚漣煉璉秊練聯輦蓮連鍊列劣咽烈裂說廉念捻殮簾獵令囹寧嶺怜玲瑩羚聆鈴零靈領例禮"),
   ("醴隸惡了僚寮尿料樂燎療蓼遼龍暈阮劉杻柳流溜琉留硫紐類六戮陸倫崙淪輪律慄栗率隆利吏履易李", "醴隸惡了僚寮尿料樂燎療蓼遼龍暈阮劉杻柳流溜琉留硫紐類六戮陸倫崙淪輪律慄栗率隆利吏履易李"),
   ("梨泥理痢罹裏裡里離匿溺吝燐璘藺隣鱗麟林淋臨立笠粒狀炙識什茶刺切度拓糖宅洞暴輻行降見廓兀", "梨泥理痢罹裏裡里離匿溺吝燐璘藺隣鱗麟林淋臨立笠粒狀炙識什茶刺切度拓糖宅洞暴輻行降見廓兀"),
   ("嗀塚晴凞猪益礼神祥福靖精羽蘒諸逸都飯飼館鶴侮僧免勉勤卑喝嘆器塀墨層屮悔慨憎懲敏既暑梅海", "嗀塚晴凞猪益礼神祥福靖精羽蘒諸逸都飯飼館鶴侮僧免勉勤卑喝嘆器塀墨層屮悔慨憎懲敏既暑梅海"),
   ("渚漢煮爫琢碑社祉祈祐祖祝禍禎穀突節練縉繁署者臭艹艹著褐視謁謹賓贈辶逸難響頻ﬠﬡﬢﬣﬤﬥ", "渚漢煮爫琢碑社祉祈祐祖祝禍禎穀突節練縉繁署者臭艹艹著褐視謁謹賓贈辶逸難響頻עאדהכל"),
   ("ﬦﬧﬨ﬩ﭐﭑﭒﭓﭔﭕﭖﭗﭘﭙﭚﭛﭜﭝﭞﭟﭠﭡﭢﭣﭤﭥﭦﭧﭨﭩﭪﭫﭬﭭﭮﭯﭰﭱﭲﭳﭴﭵﭶ", "םרת+ٱٱٻٻٻٻپپپپڀڀڀڀٺٺٺٺٿٿٿٿٹٹٹٹڤڤڤڤڦڦڦڦڄڄڄڄڃ"),
   ("ﭷﭸﭹﭺﭻﭼﭽﭾﭿﮀﮁﮂﮃﮄﮅﮆﮇﮈﮉﮊﮋﮌﮍﮎﮏﮐﮑﮒﮓﮔﮕﮖﮗﮘﮙﮚﮛﮜﮝﮞﮟﮠﮡ", "ڃڃڃچچچچڇڇڇڇڍڍڌڌڎڎڈڈژژڑڑککککگگگگڳڳڳڳڱڱڱڱںںڻڻ"),
   ("ﮢﮣﮤﮥﮦﮧﮨﮩﮪﮫﮬﮭﮮﮯﮰﮱﯓﯔﯕﯖﯗﯘﯙﯚﯛﯜﯞﯟﯠﯡﯢﯣﯤﯥﯦﯧﯨﯩﯼﯽﯾﯿ︱", "ڻڻۀۀہہہہھھھھےےۓۓڭڭڭڭۇۇۆۆۈۈۋۋۅۅۉۉېېېېىىیییی—"),
   ("︲︳︴︵︶︷︸︹︺︻︼︽︾︿﹀﹁﹂﹃﹄﹍﹎﹏﹐﹑﹒﹔﹕﹖﹗﹘﹙﹚﹛﹜﹝﹞﹟", "–__()\x7b\x7d〔〕【】《》〈〉「」『』___,、.;:?!—()\x7b\x7d〔〕#"),
   ("﹠﹡﹢﹣﹤﹥﹦﹨﹩﹪﹫ﺀﺁﺂﺃﺄﺅﺆﺇﺈﺉﺊﺋﺌﺍﺎﺏﺐﺑﺒﺓﺔﺕﺖﺗﺘﺙﺚﺛﺜﺝﺞ", "&*+-<>=\\$%@ءآآأأؤؤإإئئئئااببببةةتتتتثثثثجج"),
   ("ﺟﺠﺡﺢﺣﺤﺥﺦﺧﺨﺩﺪﺫﺬﺭﺮﺯﺰﺱﺲﺳﺴﺵﺶﺷﺸﺹﺺﺻﺼﺽﺾﺿﻀﻁﻂﻃﻄﻅﻆﻇﻈﻉ", "ججححححخخخخددذذررززسسسسششششصصصصضضضضططططظظظظع"),
   ("ﻊﻋﻌﻍﻎﻏﻐﻑﻒﻓﻔﻕﻖﻗﻘﻙﻚﻛﻜﻝﻞﻟﻠﻡﻢﻣﻤﻥﻦﻧﻨﻩﻪﻫﻬﻭﻮﻯﻰﻱﻲﻳﻴ", "عععغغغغففففققققككككللللممممننننههههووىىيييي"),
   ("！＂＃＄％＆＇（）＊＋，－．／０１２３４５６７８９：；＜＝＞？＠［＼］＾＿｀ａｂｃｄ", "!\"#$%&'()*+,-./0123456789:;<=>?@[\\]^_`abcd"),
   ("ｅｆｇｈｉｊｋｌｍｎｏｐｑｒｓｔｕｖｗｘｙｚ｛｜｝～｟｠｡｢｣､･ｦｧｨｩｪｫｬ", "efghijklmnopqrstuvwxyz\x7b|\x7d~⦅⦆。「」、・ヲァィゥェォャ"),
   ("ｭｮｯｰｱｲｳｴｵｶｷｸｹｺｻｼｽｾｿﾀﾁﾂﾃﾄﾅﾆﾇﾈﾉﾊﾋﾌﾍﾎﾏﾐﾑﾒﾓﾔﾕﾖﾗ", "ュョッーアイウエオカキクケコサシスセソタチツテトナニヌネノハヒフヘホマミムメモヤユヨラ"),
   ("ﾘﾙﾚﾛﾜﾝﾞﾟﾠﾡﾢﾣﾤﾥﾦﾧﾨﾩﾪﾫﾬﾭﾮﾯﾰﾱﾲﾳﾴﾵﾶﾷﾸﾹﾺﾻﾼﾽﾾￂￃￄￅ", "リルレロワン゙゚ᅠᄀᄁᆪᄂᆬᆭᄃᄄᄅᆰᆱᆲᆳᆴᆵᄚᄆᄇᄈᄡᄉᄊᄋᄌᄍᄎᄏᄐᄑ하ᅢᅣᅤ"),
   ("ￆￇￊￋￌￍￎￏￒￓￔￕￖￗￚￛￜ￠￡￢￤￥￦￨￩￪￫￬￭￮𝐀𝐁𝐂𝐃𝐄𝐅𝐆𝐇𝐈𝐉𝐊𝐋𝐌", "ᅥᅦᅧᅨᅩᅪᅫᅬᅭᅮᅯᅰᅱᅲᅳᅴᅵ¢£¬¦¥₩│←↑→↓■○abcdefghijklm"),
   ("𝐍𝐎𝐏𝐐𝐑𝐒𝐓𝐔𝐕𝐖𝐗𝐘𝐙𝐚𝐛𝐜𝐝𝐞𝐟𝐠𝐡𝐢𝐣𝐤𝐥𝐦𝐧𝐨𝐩𝐪𝐫𝐬𝐭𝐮𝐯𝐰𝐱𝐲𝐳𝐴𝐵𝐶𝐷", "nopqrstuvwxyzabcdefghijklmnopqrstuvwxyzabcd"),
   ("𝐸𝐹𝐺𝐻𝐼𝐽𝐾𝐿𝑀𝑁𝑂𝑃𝑄𝑅𝑆𝑇𝑈𝑉𝑊𝑋𝑌𝑍𝑎𝑏𝑐𝑑𝑒𝑓𝑔𝑖𝑗𝑘𝑙𝑚𝑛𝑜𝑝𝑞𝑟𝑠𝑡𝑢𝑣", "efghijklmnopqrstuvwxyzabcdefgijklmnopqrstuv"),
   ("𝑤𝑥𝑦𝑧𝑨𝑩𝑪𝑫𝑬𝑭𝑮𝑯𝑰𝑱𝑲𝑳𝑴𝑵𝑶𝑷𝑸𝑹𝑺𝑻𝑼𝑽𝑾𝑿𝒀𝒁𝒂𝒃𝒄𝒅𝒆𝒇𝒈𝒉𝒊𝒋𝒌𝒍𝒎", "wxyzabcdefghijklmnopqrstuvwxyzabcdefghijklm"),
   ("𝒏𝒐𝒑𝒒𝒓𝒔𝒕𝒖𝒗𝒘𝒙𝒚𝒛𝒜𝒞𝒟𝒢𝒥𝒦𝒩𝒪𝒫𝒬𝒮𝒯𝒰𝒱𝒲𝒳𝒴𝒵𝒶𝒷𝒸𝒹𝒻𝒽𝒾𝒿𝓀𝓂𝓃𝓅", "nopqrstuvwxyzacdgjknopqstuvwxyzabcdfhijkmnp"),
   ("𝓆𝓇𝓈𝓉𝓊𝓋𝓌𝓍𝓎𝓏𝓐𝓑𝓒𝓓𝓔𝓕𝓖𝓗𝓘𝓙𝓚𝓛𝓜𝓝𝓞𝓟𝓠𝓡𝓢𝓣𝓤𝓥𝓦𝓧𝓨𝓩𝓪𝓫𝓬𝓭𝓮𝓯𝓰", "qrstuvwxyzabcdefghijklmnopqrstuvwxyzabcdefg"),
   ("𝓱𝓲𝓳𝓴𝓵𝓶𝓷𝓸𝓹𝓺𝓻𝓼𝓽𝓾𝓿𝔀𝔁𝔂𝔃𝔄𝔅𝔇𝔈𝔉𝔊𝔍𝔎𝔏𝔐𝔑𝔒𝔓𝔔𝔖𝔗𝔘𝔙𝔚𝔛𝔜𝔞𝔟𝔠", "hijklmnopqrstuvwxyzabdefgjklmnopqstuvwxyabc"),
   ("𝔡𝔢𝔣𝔤𝔥𝔦𝔧𝔨𝔩𝔪𝔫𝔬𝔭𝔮𝔯𝔰𝔱𝔲𝔳𝔴𝔵𝔶𝔷𝔸𝔹𝔻𝔼𝔽𝔾𝕀𝕁𝕂𝕃𝕄𝕆𝕊𝕋𝕌𝕍𝕎𝕏𝕐𝕒", "defghijklmnopqrstuvwxyzabdefgijklmostuvwxya"),
   ("𝕓𝕔𝕕𝕖𝕗𝕘𝕙𝕚𝕛𝕜𝕝𝕞𝕟𝕠𝕡𝕢𝕣𝕤𝕥𝕦𝕧𝕨𝕩𝕪𝕫𝕬𝕭𝕮𝕯𝕰𝕱𝕲𝕳𝕴𝕵𝕶𝕷𝕸𝕹𝕺𝕻𝕼𝕽", "bcdefghijklmnopqrstuvwxyzabcdefghijklmnopqr"),
   ("𝕾𝕿𝖀𝖁𝖂𝖃𝖄𝖅𝖆𝖇𝖈𝖉𝖊𝖋𝖌𝖍𝖎𝖏𝖐𝖑𝖒𝖓𝖔𝖕𝖖𝖗𝖘𝖙𝖚𝖛𝖜𝖝𝖞𝖟𝖠𝖡𝖢𝖣𝖤𝖥𝖦𝖧𝖨", "stuvwxyzabcdefghijklmnopqrstuvwxyzabcdefghi"),
   ("𝖩𝖪𝖫𝖬𝖭𝖮𝖯𝖰𝖱𝖲𝖳𝖴𝖵𝖶𝖷𝖸𝖹𝖺𝖻𝖼𝖽𝖾𝖿𝗀𝗁𝗂𝗃𝗄𝗅𝗆𝗇𝗈𝗉𝗊𝗋𝗌𝗍𝗎𝗏𝗐𝗑𝗒𝗓", "jklmnopqrstuvwxyzabcdefghijklmnopqrstuvwxyz"),
   ("𝗔𝗕𝗖𝗗𝗘𝗙𝗚𝗛𝗜𝗝𝗞𝗟𝗠𝗡𝗢𝗣𝗤𝗥𝗦𝗧𝗨𝗩𝗪𝗫𝗬𝗭𝗮𝗯𝗰𝗱𝗲𝗳𝗴𝗵𝗶𝗷𝗸𝗹𝗺𝗻𝗼𝗽𝗾", "abcdefghijklmnopqrstuvwxyzabcdefghijklmnopq"),
   ("𝗿𝘀𝘁𝘂𝘃𝘄𝘅𝘆𝘇𝘈𝘉𝘊𝘋𝘌𝘍𝘎𝘏𝘐𝘑𝘒𝘓𝘔𝘕𝘖𝘗𝘘𝘙𝘚𝘛𝘜𝘝𝘞𝘟𝘠𝘡𝘢𝘣𝘤𝘥𝘦𝘧𝘨𝘩", "rstuvwxyzabcdefghijklmnopqrstuvwxyzabcdefgh"),
   ("𝘪𝘫𝘬𝘭𝘮𝘯𝘰𝘱𝘲𝘳𝘴𝘵𝘶𝘷𝘸𝘹𝘺𝘻𝘼𝘽𝘾𝘿𝙀𝙁𝙂𝙃𝙄𝙅𝙆𝙇𝙈𝙉𝙊𝙋𝙌𝙍𝙎𝙏𝙐𝙑𝙒𝙓𝙔", "ijklmnopqrstuvwxyzabcdefghijklmnopqrstuvwxy"),
   ("𝙕𝙖𝙗𝙘𝙙𝙚𝙛𝙜𝙝𝙞𝙟𝙠𝙡𝙢𝙣𝙤𝙥𝙦𝙧𝙨𝙩𝙪𝙫𝙬𝙭𝙮𝙯𝙰𝙱𝙲𝙳𝙴𝙵𝙶𝙷𝙸𝙹𝙺𝙻𝙼𝙽𝙾𝙿", "zabcdefghijklmnopqrstuvwxyzabcdefghijklmnop"),
   ("𝚀𝚁𝚂𝚃𝚄𝚅𝚆𝚇𝚈𝚉𝚊𝚋𝚌𝚍𝚎𝚏𝚐𝚑𝚒𝚓𝚔𝚕𝚖𝚗𝚘𝚙𝚚𝚛𝚜𝚝𝚞𝚟𝚠𝚡𝚢𝚣𝚨𝚩𝚪𝚫𝚬𝚭𝚮", "qrstuvwxyzabcdefghijklmnopqrstuvwxyzαβγδεζη"),
   ("𝚯𝚰𝚱𝚲𝚳𝚴𝚵𝚶𝚷𝚸𝚹𝚺𝚻𝚼𝚽𝚾𝚿𝛀𝛁𝛂𝛃𝛄𝛅𝛆𝛇𝛈𝛉𝛊𝛋𝛌𝛍𝛎𝛏𝛐𝛑𝛒𝛓𝛔𝛕𝛖𝛗𝛘𝛙", "θικλμνξοπρθστυφχψω∇αβγδεζηθικλμνξοπρσστυφχψ"),
   ("𝛚𝛛𝛜𝛝𝛞𝛟𝛠𝛡𝛢𝛣𝛤𝛥𝛦𝛧𝛨𝛩𝛪𝛫𝛬𝛭𝛮𝛯𝛰𝛱𝛲𝛳𝛴𝛵𝛶𝛷𝛸𝛹𝛺𝛻𝛼𝛽𝛾𝛿𝜀𝜁𝜂𝜃𝜄", "ω∂εθκφρπαβγδεζηθικλμνξοπρθστυφχψω∇αβγδεζηθι"),
   ("𝜅𝜆𝜇𝜈𝜉𝜊𝜋𝜌𝜍𝜎𝜏𝜐𝜑𝜒𝜓𝜔𝜕𝜖𝜗𝜘𝜙𝜚𝜛𝜜𝜝𝜞𝜟𝜠𝜡𝜢𝜣𝜤𝜥𝜦𝜧𝜨𝜩𝜪𝜫𝜬𝜭𝜮𝜯", "κλμνξοπρσστυφχψω∂εθκφρπαβγδεζηθικλμνξοπρθστ"),
   ("𝜰𝜱𝜲𝜳𝜴𝜵𝜶𝜷𝜸𝜹𝜺𝜻𝜼𝜽𝜾𝜿𝝀𝝁𝝂𝝃𝝄𝝅𝝆𝝇𝝈𝝉𝝊𝝋𝝌𝝍𝝎𝝏𝝐𝝑𝝒𝝓𝝔𝝕𝝖𝝗𝝘𝝙𝝚", "υφχψω∇αβγδεζηθικλμνξοπρσστυφχψω∂εθκφρπαβγδε"),
   ("𝝛𝝜𝝝𝝞𝝟𝝠𝝡𝝢𝝣𝝤𝝥𝝦𝝧𝝨𝝩𝝪𝝫𝝬𝝭𝝮𝝯𝝰𝝱𝝲𝝳𝝴𝝵𝝶𝝷𝝸𝝹𝝺𝝻𝝼𝝽𝝾𝝿𝞀𝞁𝞂𝞃𝞄𝞅", "ζηθικλμνξοπρθστυφχψω∇αβγδεζηθικλμνξοπρσστυφ"),
   ("𝞆𝞇𝞈𝞉𝞊𝞋𝞌𝞍𝞎𝞏𝞐𝞑𝞒𝞓𝞔𝞕𝞖𝞗𝞘𝞙𝞚𝞛𝞜𝞝𝞞𝞟𝞠𝞡𝞢𝞣𝞤𝞥𝞦𝞧𝞨𝞩𝞪𝞫𝞬𝞭𝞮𝞯𝞰", "χψω∂εθκφρπαβγδεζηθικλμνξοπρθστυφχψω∇αβγδεζη"),
   ("𝞱𝞲𝞳𝞴𝞵𝞶𝞷𝞸𝞹𝞺𝞻𝞼𝞽𝞾𝞿𝟀𝟁𝟂𝟃𝟄𝟅𝟆𝟇𝟈𝟉𝟎𝟏𝟐𝟑𝟒𝟓𝟔𝟕𝟖𝟗𝟘𝟙𝟚𝟛𝟜𝟝𝟞𝟟", "θικλμνξοπρσστυφχψω∂εθκφρπ012345678901234567"),
   ("𝟠𝟡𝟢𝟣𝟤𝟥𝟦𝟧𝟨𝟩𝟪𝟫𝟬𝟭𝟮𝟯𝟰𝟱𝟲𝟳𝟴𝟵𝟶𝟷𝟸𝟹𝟺𝟻𝟼𝟽𝟾𝟿丽丸乁𠄢你侮侻倂偺備僧", "89012345678901234567890123456789丽丸乁𠄢你侮侻倂偺備僧"),
   ("像㒞𠘺免兔兤具𠔜㒹內再𠕋冗冤仌冬况𩇟凵刃㓟刻剆割剷㔕勇勉勤勺包匆北卉卑博即卽卿卿卿𠨬灰", "像㒞𠘺免兔兤具𠔜㒹內再𠕋冗冤仌冬况𩇟凵刃㓟刻剆割剷㔕勇勉勤勺包匆北卉卑博即卽卿卿卿𠨬灰"),
   ("及叟𠭣叫叱吆咞吸呈周咢哶唐啓啣善善喙喫喳嗂圖嘆圗噑噴切壮城埴堍型堲報墬𡓤売壷夆多夢奢𡚨", "及叟𠭣叫叱吆咞吸呈周咢哶唐啓啣善善喙喫喳嗂圖嘆圗噑噴切壮城埴堍型堲報墬𡓤売壷夆多夢奢𡚨"),
   ("𡛪姬娛娧姘婦㛮㛼嬈嬾嬾𡧈寃寘寧寳𡬘寿将当尢㞁屠屮峀岍𡷤嵃𡷦嵮嵫嵼巡巢㠯巽帨帽幩㡢𢆃㡼庰", "𡛪姬娛娧姘婦㛮𡍪嬈嬾嬾𡧈寃寘寧寳𡬘寿将弳尢㞁屠屮峀岍𡷤嵃𡷦嵮嵫嵼巡巢㠯巽帨帽幩㡢𢆃㡼庰"),
   ("庳庶廊𪎒廾𢌱𢌱舁弢弢㣇𣊸𦇚形彫㣣徚忍志忹悁㤺㤜悔𢛔惇慈慌慎慌慺憎憲憤憯懞懲懶成戛扝抱拔", "庳庶廊𪎒廾𢌱𢌱舁弢弢㣇𣊸𦇚形彫㣣徚忍志忹悁㤺㤜悔𢛔惇慈慌慎慌慺憎憲憤憯懞懲懶成戛扝抱拔"),
   ("捐𢬌挽拼捨掃揤𢯱搢揅掩㨮摩摾撝摷㩬敏敬𣀊旣書晉㬙暑㬈㫤冒冕最暜肭䏙朗望朡杞杓𣏃㭉柺枅桒", "捐𢬌挽拼捨掃揤𢯱搢揅掩㨮摩摾撝摷㩬敏敬𣀊旣書晉㬙暑㬈㫤冒冕最暜肭䏙朗望朡杞杓𣏃㭉柺枅桒"),
   ("梅𣑭梎栟椔㮝楂榣槪檨𣚣櫛㰘次𣢧歔㱎歲殟殺殻𣪍𡴋𣫺汎𣲼沿泍汧洖派海流浩浸涅𣴞洴港湮㴳滋滇", "梅𣑭梎栟椔㮝楂榣槪檨𣚣櫛㰘次𣢧歔㱎歲殟殺殻𣪍𡴋𣫺汎𣲼沿泍汧洖派海流浩浸涅𣴞洴港湮㴳滋滇"),
   ("𣻑淹潮𣽞𣾎濆瀹瀞瀛㶖灊災灷炭𠔥煅𤉣熜𤎫爨爵牐𤘈犀犕𤜵𤠔獺王㺬玥㺸㺸瑇瑜瑱璅瓊㼛甤𤰶甾𤲒", "𣻑淹潮𣽞𣾎濆瀹瀞瀛㶖灊災灷炭𠔥煅𤉣熜䎫爨爵牐𤘈犀犕𤜵𤠔獺王㺬玥㺸㺸瑇瑜瑱璅瓊㼛甤𤰶甾𤲒"),
   ("異𢆟瘐𤾡𤾸𥁄㿼䀈直𥃳𥃲𥄙𥄳眞真真睊䀹瞋䁆䂖𥐝硎碌磌䃣𥘦祖𥚚𥛅福秫䄯穀穊穏𥥼𥪧𥪧竮䈂𥮫篆", "異𢆟瘐𤾡𤾸𥁄㿼䀈直𥃳𥃲𥄙𥄳眞真真睊䀹瞋䁆䂖𥐝硎碌磌䃣𥘦祖𥚚𥛅福秫䄯穀穊穏𥥼𥪧𥪧窮䈂𥮫篆"),
   ("築䈧𥲀糒䊠糨糣紀𥾆絣䌁緇縂繅䌴𦈨𦉇䍙𦋙罺𦌾羕翺者𦓚𦔣聠𦖨聰𣍟䏕育脃䐋脾媵𦞧𦞵𣎓𣎜舁舄辞", "築䈧𥲀糒䊠糨糣紀𥾆絣䌁緇縂繅䌴𦈨𦉇䍙𦋙罺𦌾羕翺者𦓚𦔣聠𦖨聰𣍟䏕育脃䐋脾媵𦞧𦞵𣎓𣎜舁舄辞"),
   ("䑫芑芋芝劳花芳芽苦𦬼若茝荣莭茣莽菧著荓菊菌菜𦰶𦵫𦳕䔫蓱蓳蔖𧏊蕤𦼬䕝䕡𦾱𧃒䕫虐虜虧虩蚩蚈", "䑫芑芋芝劳花芳芽苦𦬼若茝荣莭茣莽菧著荓菊菌菜𦰶𦵫𦳕䔫蓱蓳蔖𧏊蕤𦼬䕝䕡𦾱𧃒䕫虐虜虧虩蚩蚈"),
   ("蜎蛢蝹蜨蝫螆䗗蟡蠁䗹衠衣𧙧裗裞䘵裺㒻𧢮𧥦䚾䛇誠諭變豕𧲨貫賁贛起𧼯𠠄跋趼跰𠣞軔輸𨗒𨗭邔郱", "蜎蛢蝹蜨蝫螆䵗蟡蠁䗹衠衣𧙧裗裞䘵裺㒻𧢮𧥦䚾䛇誠諭變豕𧲨貫賁贛起𧼯𠠄跋趼跰𠣞軔輸𨗒𨗭邔郱"),
   ("鄑𨜮鄛鈸鋗鋘鉼鏹鐕𨯺開䦕閷𨵷䧦雃嶲霣𩅅𩈚䩮䩶韠𩐊䪲𩒖頋頋頩𩖶飢䬳餩馧駂駾䯎𩬰鬒鱀鳽䳎䳭", "鄑𨜮鄛鈸鋗鋘鉼鏹鐕𨯺開䦕閷𨵷䧦雃嶲霣𩅅𩈚䩮䩶韠𩐊䪲𩒖頋頋頩𩖶飢䬳餩馧駂駾䯎𩬰鬒鱀鳽䳎䳭"),
   ("鵧𪃎䳸𪄅𪈎𪊑麻䵖黹黾鼅鼏鼖鼻𪘀", "鵧𪃎䳸𪄅𪈎𪊑麻䵖黹黾鼅鼏鼖鼻𪘀")]

/-- Characters, each with the text behind it which it stands for; a bar between them. -/
def spelledRows : List String :=
  ["¨ ̈|¯ ̄|´ ́|¸ ̧|¼1⁄4|½1⁄2|¾3⁄4|ßss|İi̇|ĳij|ŀl·|ŉʼn|ǆdž|ǉlj|ǌnj|ǳdz|˘ ̆|˙ ̇|˚ ̊|˛ ̨|˜ ̃|˝ ̋",
   "̈́̈́|ͺ ι|΄ ́|΅ ̈́|ևեւ|ٵاٴ|ٶوٴ|ٷۇٴ|ٸيٴ|क़क़|ख़ख़|ग़ग़|ज़ज़|ड़ड़|ढ़ढ़|फ़फ़|य़य़|ড়ড়|ঢ়ঢ়|য়য়|ਲ਼ਲ਼|ਸ਼ਸ਼|ਖ਼ਖ਼",
   "ਗ਼ਗ਼|ਜ਼ਜ਼|ਫ਼ਫ਼|ଡ଼ଡ଼|ଢ଼ଢ଼|ำํา|ຳໍາ|ໜຫນ|ໝຫມ|གྷགྷ|ཌྷཌྷ|དྷདྷ|བྷབྷ|ཛྷཛྷ|ཀྵཀྵ|ཱཱིི|ཱཱུུ|ྲྀྲྀ|ཷྲཱྀ|ླྀླྀ|ཹླཱྀ|ཱཱྀྀ",
   "ྒྷྒྷ|ྜྷྜྷ|ྡྷྡྷ|ྦྷྦྷ|ྫྷྫྷ|ྐྵྐྵ|ẚaʾ|ᾀἀι|ᾁἁι|ᾂἂι|ᾃἃι|ᾄἄι|ᾅἅι|ᾆἆι|ᾇἇι|ᾐἠι|ᾑἡι|ᾒἢι|ᾓἣι|ᾔἤι|ᾕἥι|ᾖἦι|ᾗἧι",
   "ᾠὠι|ᾡὡι|ᾢὢι|ᾣὣι|ᾤὤι|ᾥὥι|ᾦὦι|ᾧὧι|ᾲὰι|ᾳαι|ᾴάι|ᾷᾶι|᾽ ̓|᾿ ̓|῀ ͂|῁ ̈͂|ῂὴι|ῃηι|ῄήι|ῇῆι|῍ ̓̀|῎ ̓́",
   "῏ ̓͂|῝ ̔̀|῞ ̔́|῟ ̔͂|῭ ̈̀|΅ ̈́|ῲὼι|ῳωι|ῴώι|ῷῶι|´ ́|῾ ̔|‗ ̳|‥..|…...|″′′|‴′′′|‶‵‵|‷‵‵‵|‼!!|‾ ̅",
   "⁇??|⁈?!|⁉!?|⁗′′′′|₨rs|℀a/c|℁a/s|℃°c|℅c/o|℆c/u|℉°f|№no|℠sm|℡tel|™tm|⅓1⁄3|⅔2⁄3|⅕1⁄5|⅖2⁄5|⅗3⁄5",
   "⅘4⁄5|⅙1⁄6|⅚5⁄6|⅛1⁄8|⅜3⁄8|⅝5⁄8|⅞7⁄8|⅟1⁄|ⅱii|ⅲiii|ⅳiv|ⅵvi|ⅶvii|ⅷviii|ⅸix|ⅺxi|ⅻxii|∬∫∫|∭∫∫∫|∯∮∮",
   "∰∮∮∮|⑩10|⑪11|⑫12|⑬13|⑭14|⑮15|⑯16|⑰17|⑱18|⑲19|⑳20|⑴(1)|⑵(2)|⑶(3)|⑷(4)|⑸(5)|⑹(6)|⑺(7)|⑻(8)",
   "⑼(9)|⑽(10)|⑾(11)|⑿(12)|⒀(13)|⒁(14)|⒂(15)|⒃(16)|⒄(17)|⒅(18)|⒆(19)|⒇(20)|⒈1.|⒉2.|⒊3.|⒋4.|⒌5.",
   "⒍6.|⒎7.|⒏8.|⒐9.|⒑10.|⒒11.|⒓12.|⒔13.|⒕14.|⒖15.|⒗16.|⒘17.|⒙18.|⒚19.|⒛20.|⒜(a)|⒝(b)|⒞(c)|⒟(d)",
   "⒠(e)|⒡(f)|⒢(g)|⒣(h)|⒤(i)|⒥(j)|⒦(k)|⒧(l)|⒨(m)|⒩(n)|⒪(o)|⒫(p)|⒬(q)|⒭(r)|⒮(s)|⒯(t)|⒰(u)|⒱(v)",
   "⒲(w)|⒳(x)|⒴(y)|⒵(z)|⨌∫∫∫∫|⩴::=|⩵==|⩶===|⫝̸⫝̸|゛ ゙|゜ ゚|ゟより|ヿコト|㈀(ᄀ)|㈁(ᄂ)|㈂(ᄃ)|㈃(ᄅ)|㈄(ᄆ)|㈅(ᄇ)",
   "㈆(ᄉ)|㈇(ᄋ)|㈈(ᄌ)|㈉(ᄎ)|㈊(ᄏ)|㈋(ᄐ)|㈌(ᄑ)|㈍(ᄒ)|㈎(가)|㈏(나)|㈐(다)|㈑(라)|㈒(마)|㈓(바)|㈔(사)|㈕(아)|㈖(자)|㈗(차)",
   "㈘(카)|㈙(타)|㈚(파)|㈛(하)|㈜(주)|㈠(一)|㈡(二)|㈢(三)|㈣(四)|㈤(五)|㈥(六)|㈦(七)|㈧(八)|㈨(九)|㈩(十)|㈪(月)|㈫(火)|㈬(水)",
   "㈭(木)|㈮(金)|㈯(土)|㈰(日)|㈱(株)|㈲(有)|㈳(社)|㈴(名)|㈵(特)|㈶(財)|㈷(祝)|㈸(労)|㈹(代)|㈺(呼)|㈻(学)|㈼(監)|㈽(企)|㈾(資)",
   "㈿(協)|㉀(祭)|㉁(休)|㉂(自)|㉃(至)|㉑21|㉒22|㉓23|㉔24|㉕25|㉖26|㉗27|㉘28|㉙29|㉚30|㉛31|㉜32|㉝33|㉞34|㉟35|㊱36|㊲37",
   "㊳38|㊴39|㊵40|㊶41|㊷42|㊸43|㊹44|㊺45|㊻46|㊼47|㊽48|㊾49|㊿50|㋀1月|㋁2月|㋂3月|㋃4月|㋄5月|㋅6月|㋆7月|㋇8月|㋈9月|㋉10月",
   "㋊11月|㋋12月|㌀アパート|㌁アルファ|㌂アンペア|㌃アール|㌄イニング|㌅インチ|㌆ウォン|㌇エスクード|㌈エーカー|㌉オンス|㌊オーム|㌋カイリ|㌌カラット|㌍カロリー",
   "㌎ガロン|㌏ガンマ|㌐ギガ|㌑ギニー|㌒キュリー|㌓ギルダー|㌔キロ|㌕キログラム|㌖キロメートル|㌗キロワット|㌘グラム|㌙グラムトン|㌚クルゼイロ|㌛クローネ|㌜ケース|㌝コルナ",
   "㌞コーポ|㌟サイクル|㌠サンチーム|㌡シリング|㌢センチ|㌣セント|㌤ダース|㌥デシ|㌦ドル|㌧トン|㌨ナノ|㌩ノット|㌪ハイツ|㌫パーセント|㌬パーツ|㌭バーレル|㌮ピアストル",
   "㌯ピクル|㌰ピコ|㌱ビル|㌲ファラッド|㌳フィート|㌴ブッシェル|㌵フラン|㌶ヘクタール|㌷ペソ|㌸ペニヒ|㌹ヘルツ|㌺ペンス|㌻ページ|㌼ベータ|㌽ポイント|㌾ボルト|㌿ホン",
   "㍀ポンド|㍁ホール|㍂ホーン|㍃マイクロ|㍄マイル|㍅マッハ|㍆マルク|㍇マンション|㍈ミクロン|㍉ミリ|㍊ミリバール|㍋メガ|㍌メガトン|㍍メートル|㍎ヤード|㍏ヤール|㍐ユアン",
   "㍑リットル|㍒リラ|㍓ルピー|㍔ルーブル|㍕レム|㍖レントゲン|㍗ワット|㍘0点|㍙1点|㍚2点|㍛3点|㍜4点|㍝5点|㍞6点|㍟7点|㍠8点|㍡9点|㍢10点|㍣11点|㍤12点",
   "㍥13点|㍦14点|㍧15点|㍨16点|㍩17点|㍪18点|㍫19点|㍬20点|㍭21点|㍮22点|㍯23点|㍰24点|㍱hpa|㍲da|㍳au|㍴bar|㍵ov|㍶pc|㍻平成",
   "㍼昭和|㍽大正|㍾明治|㍿株式会社|㎀pa|㎁na|㎂μa|㎃ma|㎄ka|㎅kb|㎆mb|㎇gb|㎈cal|㎉kcal|㎊pf|㎋nf|㎌μf|㎍μg|㎎mg|㎏kg|㎐hz",
   "㎑khz|㎒mhz|㎓ghz|㎔thz|㎕μl|㎖ml|㎗dl|㎘kl|㎙fm|㎚nm|㎛μm|㎜mm|㎝cm|㎞km|㎟mm2|㎠cm2|㎡m2|㎢km2|㎣mm3|㎤cm3|㎥m3",
   "㎦km3|㎧m∕s|㎨m∕s2|㎩pa|㎪kpa|㎫mpa|㎬gpa|㎭rad|㎮rad∕s|㎯rad∕s2|㎰ps|㎱ns|㎲μs|㎳ms|㎴pv|㎵nv|㎶μv|㎷mv|㎸kv",
   "㎹mv|㎺pw|㎻nw|㎼μw|㎽mw|㎾kw|㎿mw|㏀kω|㏁mω|㏂a.m.|㏃bq|㏄cc|㏅cd|㏆c∕kg|㏇co.|㏈db|㏉gy|㏊ha|㏋hp|㏌in|㏍kk|㏎km",
   "㏏kt|㏐lm|㏑ln|㏒log|㏓lx|㏔mb|㏕mil|㏖mol|㏗ph|㏘p.m.|㏙ppm|㏚pr|㏛sr|㏜sv|㏝wb|㏠1日|㏡2日|㏢3日|㏣4日|㏤5日|㏥6日",
   "㏦7日|㏧8日|㏨9日|㏩10日|㏪11日|㏫12日|㏬13日|㏭14日|㏮15日|㏯16日|㏰17日|㏱18日|㏲19日|㏳20日|㏴21日|㏵22日|㏶23日|㏷24日|㏸25日",
   "㏹26日|㏺27日|㏻28日|㏼29日|㏽30日|㏾31日|ﬀff|ﬁfi|ﬂfl|ﬃffi|ﬄffl|ﬅst|ﬆst|ﬓմն|ﬔմե|ﬕմի|ﬖվն|ﬗմխ|יִיִ|ײַײַ|שׁשׁ",
   "שׂשׂ|שּׁשּׁ|שּׂשּׂ|אַאַ|אָאָ|אּאּ|בּבּ|גּגּ|דּדּ|הּהּ|וּוּ|זּזּ|טּטּ|יּיּ|ךּךּ|כּכּ|לּלּ|מּמּ|נּנּ|סּסּ|ףּףּ|פּפּ",
   "צּצּ|קּקּ|רּרּ|שּשּ|תּתּ|וֹוֹ|בֿבֿ|כֿכֿ|פֿפֿ|ﭏאל|ﯝۇٴ|ﯪئا|ﯫئا|ﯬئە|ﯭئە|ﯮئو|ﯯئو|ﯰئۇ|ﯱئۇ|ﯲئۆ|ﯳئۆ|ﯴئۈ|ﯵئۈ",
   "ﯶئې|ﯷئې|ﯸئې|ﯹئى|ﯺئى|ﯻئى|ﰀئج|ﰁئح|ﰂئم|ﰃئى|ﰄئي|ﰅبج|ﰆبح|ﰇبخ|ﰈبم|ﰉبى|ﰊبي|ﰋتج|ﰌتح|ﰍتخ|ﰎتم|ﰏتى|ﰐتي",
   "ﰑثج|ﰒثم|ﰓثى|ﰔثي|ﰕجح|ﰖجم|ﰗحج|ﰘحم|ﰙخج|ﰚخح|ﰛخم|ﰜسج|ﰝسح|ﰞسخ|ﰟسم|ﰠصح|ﰡصم|ﰢضج|ﰣضح|ﰤضخ|ﰥضم|ﰦطح|ﰧطم",
   "ﰨظم|ﰩعج|ﰪعم|ﰫغج|ﰬغم|ﰭفج|ﰮفح|ﰯفخ|ﰰفم|ﰱفى|ﰲفي|ﰳقح|ﰴقم|ﰵقى|ﰶقي|ﰷكا|ﰸكج|ﰹكح|ﰺكخ|ﰻكل|ﰼكم|ﰽكى|ﰾكي",
   "ﰿلج|ﱀلح|ﱁلخ|ﱂلم|ﱃلى|ﱄلي|ﱅمج|ﱆمح|ﱇمخ|ﱈمم|ﱉمى|ﱊمي|ﱋنج|ﱌنح|ﱍنخ|ﱎنم|ﱏنى|ﱐني|ﱑهج|ﱒهم|ﱓهى|ﱔهي|ﱕيج",
   "ﱖيح|ﱗيخ|ﱘيم|ﱙيى|ﱚيي|ﱛذٰ|ﱜرٰ|ﱝىٰ|ﱞ ٌّ|ﱟ ٍّ|ﱠ َّ|ﱡ ُّ|ﱢ ِّ|ﱣ ّٰ|ﱤئر|ﱥئز|ﱦئم|ﱧئن|ﱨئى|ﱩئي|ﱪبر",
   "ﱫبز|ﱬبم|ﱭبن|ﱮبى|ﱯبي|ﱰتر|ﱱتز|ﱲتم|ﱳتن|ﱴتى|ﱵتي|ﱶثر|ﱷثز|ﱸثم|ﱹثن|ﱺثى|ﱻثي|ﱼفى|ﱽفي|ﱾقى|ﱿقي|ﲀكا|ﲁكل",
   "ﲂكم|ﲃكى|ﲄكي|ﲅلم|ﲆلى|ﲇلي|ﲈما|ﲉمم|ﲊنر|ﲋنز|ﲌنم|ﲍنن|ﲎنى|ﲏني|ﲐىٰ|ﲑير|ﲒيز|ﲓيم|ﲔين|ﲕيى|ﲖيي|ﲗئج|ﲘئح",
   "ﲙئخ|ﲚئم|ﲛئه|ﲜبج|ﲝبح|ﲞبخ|ﲟبم|ﲠبه|ﲡتج|ﲢتح|ﲣتخ|ﲤتم|ﲥته|ﲦثم|ﲧجح|ﲨجم|ﲩحج|ﲪحم|ﲫخج|ﲬخم|ﲭسج|ﲮسح|ﲯسخ",
   "ﲰسم|ﲱصح|ﲲصخ|ﲳصم|ﲴضج|ﲵضح|ﲶضخ|ﲷضم|ﲸطح|ﲹظم|ﲺعج|ﲻعم|ﲼغج|ﲽغم|ﲾفج|ﲿفح|ﳀفخ|ﳁفم|ﳂقح|ﳃقم|ﳄكج|ﳅكح|ﳆكخ",
   "ﳇكل|ﳈكم|ﳉلج|ﳊلح|ﳋلخ|ﳌلم|ﳍله|ﳎمج|ﳏمح|ﳐمخ|ﳑمم|ﳒنج|ﳓنح|ﳔنخ|ﳕنم|ﳖنه|ﳗهج|ﳘهم|ﳙهٰ|ﳚيج|ﳛيح|ﳜيخ|ﳝيم",
   "ﳞيه|ﳟئم|ﳠئه|ﳡبم|ﳢبه|ﳣتم|ﳤته|ﳥثم|ﳦثه|ﳧسم|ﳨسه|ﳩشم|ﳪشه|ﳫكل|ﳬكم|ﳭلم|ﳮنم|ﳯنه|ﳰيم|ﳱيه|ﳲـَّ|ﳳـُّ",
   "ﳴـِّ|ﳵطى|ﳶطي|ﳷعى|ﳸعي|ﳹغى|ﳺغي|ﳻسى|ﳼسي|ﳽشى|ﳾشي|ﳿحى|ﴀحي|ﴁجى|ﴂجي|ﴃخى|ﴄخي|ﴅصى|ﴆصي|ﴇضى|ﴈضي|ﴉشج|ﴊشح",
   "ﴋشخ|ﴌشم|ﴍشر|ﴎسر|ﴏصر|ﴐضر|ﴑطى|ﴒطي|ﴓعى|ﴔعي|ﴕغى|ﴖغي|ﴗسى|ﴘسي|ﴙشى|ﴚشي|ﴛحى|ﴜحي|ﴝجى|ﴞجي|ﴟخى|ﴠخي|ﴡصى",
   "ﴢصي|ﴣضى|ﴤضي|ﴥشج|ﴦشح|ﴧشخ|ﴨشم|ﴩشر|ﴪسر|ﴫصر|ﴬضر|ﴭشج|ﴮشح|ﴯشخ|ﴰشم|ﴱسه|ﴲشه|ﴳطم|ﴴسج|ﴵسح|ﴶسخ|ﴷشج|ﴸشح",
   "ﴹشخ|ﴺطم|ﴻظم|ﴼاً|ﴽاً|ﵐتجم|ﵑتحج|ﵒتحج|ﵓتحم|ﵔتخم|ﵕتمج|ﵖتمح|ﵗتمخ|ﵘجمح|ﵙجمح|ﵚحمي|ﵛحمى|ﵜسحج|ﵝسجح",
   "ﵞسجى|ﵟسمح|ﵠسمح|ﵡسمج|ﵢسمم|ﵣسمم|ﵤصحح|ﵥصحح|ﵦصمم|ﵧشحم|ﵨشحم|ﵩشجي|ﵪشمخ|ﵫشمخ|ﵬشمم|ﵭشمم|ﵮضحى|ﵯضخم",
   "ﵰضخم|ﵱطمح|ﵲطمح|ﵳطمم|ﵴطمي|ﵵعجم|ﵶعمم|ﵷعمم|ﵸعمى|ﵹغمم|ﵺغمي|ﵻغمى|ﵼفخم|ﵽفخم|ﵾقمح|ﵿقمم|ﶀلحم|ﶁلحي",
   "ﶂلحى|ﶃلجج|ﶄلجج|ﶅلخم|ﶆلخم|ﶇلمح|ﶈلمح|ﶉمحج|ﶊمحم|ﶋمحي|ﶌمجح|ﶍمجم|ﶎمخج|ﶏمخم|ﶒمجخ|ﶓهمج|ﶔهمم|ﶕنحم",
   "ﶖنحى|ﶗنجم|ﶘنجم|ﶙنجى|ﶚنمي|ﶛنمى|ﶜيمم|ﶝيمم|ﶞبخي|ﶟتجي|ﶠتجى|ﶡتخي|ﶢتخى|ﶣتمي|ﶤتمى|ﶥجمي|ﶦجحى|ﶧجمى",
   "ﶨسخى|ﶩصحي|ﶪشحي|ﶫضحي|ﶬلجي|ﶭلمي|ﶮيحي|ﶯيجي|ﶰيمي|ﶱممي|ﶲقمي|ﶳنحي|ﶴقمح|ﶵلحم|ﶶعمي|ﶷكمي|ﶸنجح|ﶹمخي",
   "ﶺلجم|ﶻكمم|ﶼلجم|ﶽنجح|ﶾجحي|ﶿحجي|ﷀمجي|ﷁفمي|ﷂبحي|ﷃكمم|ﷄعجم|ﷅصمم|ﷆسخي|ﷇنجي|ﷰصلے|ﷱقلے|ﷲالله|ﷳاكبر",
   "ﷴمحمد|ﷵصلعم|ﷶرسول|ﷷعليه|ﷸوسلم|ﷹصلى|ﷺصلى الله عليه وسلم|ﷻجل جلاله|﷼ریال|︰..|﹉ ̅|﹊ ̅|﹋ ̅|﹌ ̅",
   "ﹰ ً|ﹱـً|ﹲ ٌ|ﹴ ٍ|ﹶ َ|ﹷـَ|ﹸ ُ|ﹹـُ|ﹺ ِ|ﹻـِ|ﹼ ّ|ﹽـّ|ﹾ ْ|ﹿـْ|ﻵلآ|ﻶلآ|ﻷلأ|ﻸلأ|ﻹلإ|ﻺلإ|ﻻلا|ﻼلا|￣ ̄",
   "𝅗𝅥𝅗𝅥|𝅘𝅥𝅘𝅥|𝅘𝅥𝅮𝅘𝅥𝅮|𝅘𝅥𝅯𝅘𝅥𝅯|𝅘𝅥𝅰𝅘𝅥𝅰|𝅘𝅥𝅱𝅘𝅥𝅱|𝅘𝅥𝅲𝅘𝅥𝅲|𝆹𝅥𝆹𝅥|𝆺𝅥𝆺𝅥|𝆹𝅥𝅮𝆹𝅥𝅮|𝆺𝅥𝅮𝆺𝅥𝅮|𝆹𝅥𝅯𝆹𝅥𝅯|𝆺𝅥𝅯𝆺𝅥𝅯"]

/-- Characters, each with the text which it stands for. -/
def plainer : List (CodePoint × Text) :=
  (plainerRows.flatMap fun row =>
      (row.1.toText.zip row.2.toText).map fun entry => (entry.1, [entry.2])) ++
    spelledRows.flatMap fun row => (split (· = .char '|') row.toText).filterMap fun
      | c :: text => some (c, text)
      | [] => none

/-- The text that a small character stands for; the character itself of most. -/
def plainerOf (c : CodePoint) : Text := (plainer.lookup c).getD [c]

end Restyle.Text
