import UploadRelay.Text.Combining
-- Composed texts: a letter and its marks become one code point wherever there is one for
-- them, and marks stand in the order of their classes.

namespace UploadRelay.Text

def composed : List String :=
  ["ÀA\u0300ÁA\u0301ÂA\u0302ÃA\u0303ÄA\u0308ÅA\u030aÇC\u0327ÈE\u0300ÉE\u0301ÊE\u0302ËE\u0308",
   "ÌI\u0300ÍI\u0301ÎI\u0302ÏI\u0308ÑN\u0303ÒO\u0300ÓO\u0301ÔO\u0302ÕO\u0303ÖO\u0308ÙU\u0300",
   "ÚU\u0301ÛU\u0302ÜU\u0308ÝY\u0301àa\u0300áa\u0301âa\u0302ãa\u0303äa\u0308åa\u030açc\u0327",
   "èe\u0300ée\u0301êe\u0302ëe\u0308ìi\u0300íi\u0301îi\u0302ïi\u0308ñn\u0303òo\u0300óo\u0301",
   "ôo\u0302õo\u0303öo\u0308ùu\u0300úu\u0301ûu\u0302üu\u0308ýy\u0301ÿy\u0308ĀA\u0304āa\u0304",
   "ĂA\u0306ăa\u0306ĄA\u0328ąa\u0328ĆC\u0301ćc\u0301ĈC\u0302ĉc\u0302ĊC\u0307ċc\u0307ČC\u030c",
   "čc\u030cĎD\u030cďd\u030cĒE\u0304ēe\u0304ĔE\u0306ĕe\u0306ĖE\u0307ėe\u0307ĘE\u0328ęe\u0328",
   "ĚE\u030cěe\u030cĜG\u0302ĝg\u0302ĞG\u0306ğg\u0306ĠG\u0307ġg\u0307ĢG\u0327ģg\u0327ĤH\u0302",
   "ĥh\u0302ĨI\u0303ĩi\u0303ĪI\u0304īi\u0304ĬI\u0306ĭi\u0306ĮI\u0328įi\u0328İI\u0307ĴJ\u0302",
   "ĵj\u0302ĶK\u0327ķk\u0327ĹL\u0301ĺl\u0301ĻL\u0327ļl\u0327ĽL\u030cľl\u030cŃN\u0301ńn\u0301",
   "ŅN\u0327ņn\u0327ŇN\u030cňn\u030cŌO\u0304ōo\u0304ŎO\u0306ŏo\u0306ŐO\u030bőo\u030bŔR\u0301",
   "ŕr\u0301ŖR\u0327ŗr\u0327ŘR\u030cřr\u030cŚS\u0301śs\u0301ŜS\u0302ŝs\u0302ŞS\u0327şs\u0327",
   "ŠS\u030cšs\u030cŢT\u0327ţt\u0327ŤT\u030cťt\u030cŨU\u0303ũu\u0303ŪU\u0304ūu\u0304ŬU\u0306",
   "ŭu\u0306ŮU\u030aůu\u030aŰU\u030bűu\u030bŲU\u0328ųu\u0328ŴW\u0302ŵw\u0302ŶY\u0302ŷy\u0302",
   "ŸY\u0308ŹZ\u0301źz\u0301ŻZ\u0307żz\u0307ŽZ\u030cžz\u030cƠO\u031bơo\u031bƯU\u031bưu\u031b",
   "ǍA\u030cǎa\u030cǏI\u030cǐi\u030cǑO\u030cǒo\u030cǓU\u030cǔu\u030cǕÜ\u0304ǖü\u0304ǗÜ\u0301",
   "ǘü\u0301ǙÜ\u030cǚü\u030cǛÜ\u0300ǜü\u0300ǞÄ\u0304ǟä\u0304ǠȦ\u0304ǡȧ\u0304ǢÆ\u0304ǣæ\u0304",
   "ǦG\u030cǧg\u030cǨK\u030cǩk\u030cǪO\u0328ǫo\u0328ǬǪ\u0304ǭǫ\u0304ǮƷ\u030cǯʒ\u030cǰj\u030c",
   "ǴG\u0301ǵg\u0301ǸN\u0300ǹn\u0300ǺÅ\u0301ǻå\u0301ǼÆ\u0301ǽæ\u0301ǾØ\u0301ǿø\u0301ȀA\u030f",
   "ȁa\u030fȂA\u0311ȃa\u0311ȄE\u030fȅe\u030fȆE\u0311ȇe\u0311ȈI\u030fȉi\u030fȊI\u0311ȋi\u0311",
   "ȌO\u030fȍo\u030fȎO\u0311ȏo\u0311ȐR\u030fȑr\u030fȒR\u0311ȓr\u0311ȔU\u030fȕu\u030fȖU\u0311",
   "ȗu\u0311ȘS\u0326șs\u0326ȚT\u0326țt\u0326ȞH\u030cȟh\u030cȦA\u0307ȧa\u0307ȨE\u0327ȩe\u0327",
   "ȪÖ\u0304ȫö\u0304ȬÕ\u0304ȭõ\u0304ȮO\u0307ȯo\u0307ȰȮ\u0304ȱȯ\u0304ȲY\u0304ȳy\u0304΅¨\u0301",
   "ΆΑ\u0301ΈΕ\u0301ΉΗ\u0301ΊΙ\u0301ΌΟ\u0301ΎΥ\u0301ΏΩ\u0301ΐϊ\u0301ΪΙ\u0308ΫΥ\u0308άα\u0301",
   "έε\u0301ήη\u0301ίι\u0301ΰϋ\u0301ϊι\u0308ϋυ\u0308όο\u0301ύυ\u0301ώω\u0301ϓϒ\u0301ϔϒ\u0308",
   "ЀЕ\u0300ЁЕ\u0308ЃГ\u0301ЇІ\u0308ЌК\u0301ЍИ\u0300ЎУ\u0306ЙИ\u0306йи\u0306ѐе\u0300ёе\u0308",
   "ѓг\u0301їі\u0308ќк\u0301ѝи\u0300ўу\u0306ѶѴ\u030fѷѵ\u030fӁЖ\u0306ӂж\u0306ӐА\u0306ӑа\u0306",
   "ӒА\u0308ӓа\u0308ӖЕ\u0306ӗе\u0306ӚӘ\u0308ӛә\u0308ӜЖ\u0308ӝж\u0308ӞЗ\u0308ӟз\u0308ӢИ\u0304",
   "ӣи\u0304ӤИ\u0308ӥи\u0308ӦО\u0308ӧо\u0308ӪӨ\u0308ӫө\u0308ӬЭ\u0308ӭэ\u0308ӮУ\u0304ӯу\u0304",
   "ӰУ\u0308ӱу\u0308ӲУ\u030bӳу\u030bӴЧ\u0308ӵч\u0308ӸЫ\u0308ӹы\u0308\u0622\u0627\u0653",
   "\u0623\u0627\u0654\u0624\u0648\u0654\u0625\u0627\u0655\u0626\u064a\u0654\u06c0\u06d5\u0654",
   "\u06c2\u06c1\u0654\u06d3\u06d2\u0654ऩन\u093cऱर\u093cऴळ\u093c\u09cb\u09c7\u09be",
   "\u09cc\u09c7\u09d7\u0b48\u0b47\u0b56\u0b4b\u0b47\u0b3e\u0b4c\u0b47\u0b57ஔஒ\u0bd7",
   "\u0bca\u0bc6\u0bbe\u0bcb\u0bc7\u0bbe\u0bcc\u0bc6\u0bd7\u0c48\u0c46\u0c56\u0cc0\u0cbf\u0cd5",
   "\u0cc7\u0cc6\u0cd5\u0cc8\u0cc6\u0cd6\u0cca\u0cc6\u0cc2\u0ccb\u0cca\u0cd5\u0d4a\u0d46\u0d3e",
   "\u0d4b\u0d47\u0d3e\u0d4c\u0d46\u0d57\u0dda\u0dd9\u0dca\u0ddc\u0dd9\u0dcf\u0ddd\u0ddc\u0dca",
   "\u0dde\u0dd9\u0ddfဦဥ\u102eᬆᬅ\u1b35ᬈᬇ\u1b35ᬊᬉ\u1b35ᬌᬋ\u1b35ᬎᬍ\u1b35ᬒᬑ\u1b35\u1b3b\u1b3a\u1b35",
   "\u1b3d\u1b3c\u1b35\u1b40\u1b3e\u1b35\u1b41\u1b3f\u1b35\u1b43\u1b42\u1b35ḀA\u0325ḁa\u0325",
   "ḂB\u0307ḃb\u0307ḄB\u0323ḅb\u0323ḆB\u0331ḇb\u0331ḈÇ\u0301ḉç\u0301ḊD\u0307ḋd\u0307ḌD\u0323",
   "ḍd\u0323ḎD\u0331ḏd\u0331ḐD\u0327ḑd\u0327ḒD\u032dḓd\u032dḔĒ\u0300ḕē\u0300ḖĒ\u0301ḗē\u0301",
   "ḘE\u032dḙe\u032dḚE\u0330ḛe\u0330ḜȨ\u0306ḝȩ\u0306ḞF\u0307ḟf\u0307ḠG\u0304ḡg\u0304ḢH\u0307",
   "ḣh\u0307ḤH\u0323ḥh\u0323ḦH\u0308ḧh\u0308ḨH\u0327ḩh\u0327ḪH\u032eḫh\u032eḬI\u0330ḭi\u0330",
   "ḮÏ\u0301ḯï\u0301ḰK\u0301ḱk\u0301ḲK\u0323ḳk\u0323ḴK\u0331ḵk\u0331ḶL\u0323ḷl\u0323ḸḶ\u0304",
   "ḹḷ\u0304ḺL\u0331ḻl\u0331ḼL\u032dḽl\u032dḾM\u0301ḿm\u0301ṀM\u0307ṁm\u0307ṂM\u0323ṃm\u0323",
   "ṄN\u0307ṅn\u0307ṆN\u0323ṇn\u0323ṈN\u0331ṉn\u0331ṊN\u032dṋn\u032dṌÕ\u0301ṍõ\u0301ṎÕ\u0308",
   "ṏõ\u0308ṐŌ\u0300ṑō\u0300ṒŌ\u0301ṓō\u0301ṔP\u0301ṕp\u0301ṖP\u0307ṗp\u0307ṘR\u0307ṙr\u0307",
   "ṚR\u0323ṛr\u0323ṜṚ\u0304ṝṛ\u0304ṞR\u0331ṟr\u0331ṠS\u0307ṡs\u0307ṢS\u0323ṣs\u0323ṤŚ\u0307",
   "ṥś\u0307ṦŠ\u0307ṧš\u0307ṨṢ\u0307ṩṣ\u0307ṪT\u0307ṫt\u0307ṬT\u0323ṭt\u0323ṮT\u0331ṯt\u0331",
   "ṰT\u032dṱt\u032dṲU\u0324ṳu\u0324ṴU\u0330ṵu\u0330ṶU\u032dṷu\u032dṸŨ\u0301ṹũ\u0301ṺŪ\u0308",
   "ṻū\u0308ṼV\u0303ṽv\u0303ṾV\u0323ṿv\u0323ẀW\u0300ẁw\u0300ẂW\u0301ẃw\u0301ẄW\u0308ẅw\u0308",
   "ẆW\u0307ẇw\u0307ẈW\u0323ẉw\u0323ẊX\u0307ẋx\u0307ẌX\u0308ẍx\u0308ẎY\u0307ẏy\u0307ẐZ\u0302",
   "ẑz\u0302ẒZ\u0323ẓz\u0323ẔZ\u0331ẕz\u0331ẖh\u0331ẗt\u0308ẘw\u030aẙy\u030aẛſ\u0307ẠA\u0323",
   "ạa\u0323ẢA\u0309ảa\u0309ẤÂ\u0301ấâ\u0301ẦÂ\u0300ầâ\u0300ẨÂ\u0309ẩâ\u0309ẪÂ\u0303ẫâ\u0303",
   "ẬẠ\u0302ậạ\u0302ẮĂ\u0301ắă\u0301ẰĂ\u0300ằă\u0300ẲĂ\u0309ẳă\u0309ẴĂ\u0303ẵă\u0303ẶẠ\u0306",
   "ặạ\u0306ẸE\u0323ẹe\u0323ẺE\u0309ẻe\u0309ẼE\u0303ẽe\u0303ẾÊ\u0301ếê\u0301ỀÊ\u0300ềê\u0300",
   "ỂÊ\u0309ểê\u0309ỄÊ\u0303ễê\u0303ỆẸ\u0302ệẹ\u0302ỈI\u0309ỉi\u0309ỊI\u0323ịi\u0323ỌO\u0323",
   "ọo\u0323ỎO\u0309ỏo\u0309ỐÔ\u0301ốô\u0301ỒÔ\u0300ồô\u0300ỔÔ\u0309ổô\u0309ỖÔ\u0303ỗô\u0303",
   "ỘỌ\u0302ộọ\u0302ỚƠ\u0301ớơ\u0301ỜƠ\u0300ờơ\u0300ỞƠ\u0309ởơ\u0309ỠƠ\u0303ỡơ\u0303ỢƠ\u0323",
   "ợơ\u0323ỤU\u0323ụu\u0323ỦU\u0309ủu\u0309ỨƯ\u0301ứư\u0301ỪƯ\u0300ừư\u0300ỬƯ\u0309ửư\u0309",
   "ỮƯ\u0303ữư\u0303ỰƯ\u0323ựư\u0323ỲY\u0300ỳy\u0300ỴY\u0323ỵy\u0323ỶY\u0309ỷy\u0309ỸY\u0303",
   "ỹy\u0303ἀα\u0313ἁα\u0314ἂἀ\u0300ἃἁ\u0300ἄἀ\u0301ἅἁ\u0301ἆἀ\u0342ἇἁ\u0342ἈΑ\u0313ἉΑ\u0314",
   "ἊἈ\u0300ἋἉ\u0300ἌἈ\u0301ἍἉ\u0301ἎἈ\u0342ἏἉ\u0342ἐε\u0313ἑε\u0314ἒἐ\u0300ἓἑ\u0300ἔἐ\u0301",
   "ἕἑ\u0301ἘΕ\u0313ἙΕ\u0314ἚἘ\u0300ἛἙ\u0300ἜἘ\u0301ἝἙ\u0301ἠη\u0313ἡη\u0314ἢἠ\u0300ἣἡ\u0300",
   "ἤἠ\u0301ἥἡ\u0301ἦἠ\u0342ἧἡ\u0342ἨΗ\u0313ἩΗ\u0314ἪἨ\u0300ἫἩ\u0300ἬἨ\u0301ἭἩ\u0301ἮἨ\u0342",
   "ἯἩ\u0342ἰι\u0313ἱι\u0314ἲἰ\u0300ἳἱ\u0300ἴἰ\u0301ἵἱ\u0301ἶἰ\u0342ἷἱ\u0342ἸΙ\u0313ἹΙ\u0314",
   "ἺἸ\u0300ἻἹ\u0300ἼἸ\u0301ἽἹ\u0301ἾἸ\u0342ἿἹ\u0342ὀο\u0313ὁο\u0314ὂὀ\u0300ὃὁ\u0300ὄὀ\u0301",
   "ὅὁ\u0301ὈΟ\u0313ὉΟ\u0314ὊὈ\u0300ὋὉ\u0300ὌὈ\u0301ὍὉ\u0301ὐυ\u0313ὑυ\u0314ὒὐ\u0300ὓὑ\u0300",
   "ὔὐ\u0301ὕὑ\u0301ὖὐ\u0342ὗὑ\u0342ὙΥ\u0314ὛὙ\u0300ὝὙ\u0301ὟὙ\u0342ὠω\u0313ὡω\u0314ὢὠ\u0300",
   "ὣὡ\u0300ὤὠ\u0301ὥὡ\u0301ὦὠ\u0342ὧὡ\u0342ὨΩ\u0313ὩΩ\u0314ὪὨ\u0300ὫὩ\u0300ὬὨ\u0301ὭὩ\u0301",
   "ὮὨ\u0342ὯὩ\u0342ὰα\u0300ὲε\u0300ὴη\u0300ὶι\u0300ὸο\u0300ὺυ\u0300ὼω\u0300ᾀἀ\u0345ᾁἁ\u0345",
   "ᾂἂ\u0345ᾃἃ\u0345ᾄἄ\u0345ᾅἅ\u0345ᾆἆ\u0345ᾇἇ\u0345ᾈἈ\u0345ᾉἉ\u0345ᾊἊ\u0345ᾋἋ\u0345ᾌἌ\u0345",
   "ᾍἍ\u0345ᾎἎ\u0345ᾏἏ\u0345ᾐἠ\u0345ᾑἡ\u0345ᾒἢ\u0345ᾓἣ\u0345ᾔἤ\u0345ᾕἥ\u0345ᾖἦ\u0345ᾗἧ\u0345",
   "ᾘἨ\u0345ᾙἩ\u0345ᾚἪ\u0345ᾛἫ\u0345ᾜἬ\u0345ᾝἭ\u0345ᾞἮ\u0345ᾟἯ\u0345ᾠὠ\u0345ᾡὡ\u0345ᾢὢ\u0345",
   "ᾣὣ\u0345ᾤὤ\u0345ᾥὥ\u0345ᾦὦ\u0345ᾧὧ\u0345ᾨὨ\u0345ᾩὩ\u0345ᾪὪ\u0345ᾫὫ\u0345ᾬὬ\u0345ᾭὭ\u0345",
   "ᾮὮ\u0345ᾯὯ\u0345ᾰα\u0306ᾱα\u0304ᾲὰ\u0345ᾳα\u0345ᾴά\u0345ᾶα\u0342ᾷᾶ\u0345ᾸΑ\u0306ᾹΑ\u0304",
   "ᾺΑ\u0300ᾼΑ\u0345῁¨\u0342ῂὴ\u0345ῃη\u0345ῄή\u0345ῆη\u0342ῇῆ\u0345ῈΕ\u0300ῊΗ\u0300ῌΗ\u0345",
   "῍᾿\u0300῎᾿\u0301῏᾿\u0342ῐι\u0306ῑι\u0304ῒϊ\u0300ῖι\u0342ῗϊ\u0342ῘΙ\u0306ῙΙ\u0304ῚΙ\u0300",
   "῝῾\u0300῞῾\u0301῟῾\u0342ῠυ\u0306ῡυ\u0304ῢϋ\u0300ῤρ\u0313ῥρ\u0314ῦυ\u0342ῧϋ\u0342ῨΥ\u0306",
   "ῩΥ\u0304ῪΥ\u0300ῬΡ\u0314῭¨\u0300ῲὼ\u0345ῳω\u0345ῴώ\u0345ῶω\u0342ῷῶ\u0345ῸΟ\u0300ῺΩ\u0300",
   "ῼΩ\u0345↚←\u0338↛→\u0338↮↔\u0338⇍⇐\u0338⇎⇔\u0338⇏⇒\u0338∄∃\u0338∉∈\u0338∌∋\u0338∤∣\u0338",
   "∦∥\u0338≁∼\u0338≄≃\u0338≇≅\u0338≉≈\u0338≠=\u0338≢≡\u0338≭≍\u0338≮<\u0338≯>\u0338≰≤\u0338",
   "≱≥\u0338≴≲\u0338≵≳\u0338≸≶\u0338≹≷\u0338⊀≺\u0338⊁≻\u0338⊄⊂\u0338⊅⊃\u0338⊈⊆\u0338⊉⊇\u0338",
   "⊬⊢\u0338⊭⊨\u0338⊮⊩\u0338⊯⊫\u0338⋠≼\u0338⋡≽\u0338⋢⊑\u0338⋣⊒\u0338⋪⊲\u0338⋫⊳\u0338⋬⊴\u0338",
   "⋭⊵\u0338がか\u3099ぎき\u3099ぐく\u3099げけ\u3099ごこ\u3099ざさ\u3099じし\u3099ずす\u3099ぜせ\u3099ぞそ\u3099",
   "だた\u3099ぢち\u3099づつ\u3099でて\u3099どと\u3099ばは\u3099ぱは\u309aびひ\u3099ぴひ\u309aぶふ\u3099ぷふ\u309a",
   "べへ\u3099ぺへ\u309aぼほ\u3099ぽほ\u309aゔう\u3099\u309e\u309d\u3099ガカ\u3099ギキ\u3099グク\u3099ゲケ\u3099",
   "ゴコ\u3099ザサ\u3099ジシ\u3099ズス\u3099ゼセ\u3099ゾソ\u3099ダタ\u3099ヂチ\u3099ヅツ\u3099デテ\u3099ドト\u3099",
   "バハ\u3099パハ\u309aビヒ\u3099ピヒ\u309aブフ\u3099プフ\u309aベヘ\u3099ペヘ\u309aボホ\u3099ポホ\u309aヴウ\u3099",
   "ヷワ\u3099ヸヰ\u3099ヹヱ\u3099ヺヲ\u3099\u30fe\u30fd\u3099𑂚𑂚𑂜𑂜𑂫𑂫𑄮𑄮𑄯𑄯𑍋𑍋𑍌𑍌𑒻𑒻𑒼𑒼𑒾𑒾𑖺𑖺𑖻𑖻𑤸𑤸"]

def dissolved : List String :=
  ["\u0344\u0308\u0301क़क\u093cख़ख\u093cग़ग\u093cज़ज\u093cड़ड\u093cढ़ढ\u093cफ़फ\u093cय़य\u093cড়ড\u09bc",
   "ঢ়ঢ\u09bcয়য\u09bcਲ਼ਲ\u0a3cਸ਼ਸ\u0a3cਖ਼ਖ\u0a3cਗ਼ਗ\u0a3cਜ਼ਜ\u0a3cਫ਼ਫ\u0a3cଡ଼ଡ\u0b3cଢ଼ଢ\u0b3cགྷག\u0fb7",
   "ཌྷཌ\u0fb7དྷད\u0fb7བྷབ\u0fb7ཛྷཛ\u0fb7ཀྵཀ\u0fb5\u0f73\u0f71\u0f72\u0f75\u0f71\u0f74\u0f76\u0fb2\u0f80",
   "\u0f78\u0fb3\u0f80\u0f81\u0f71\u0f80\u0f93\u0f92\u0fb7\u0f9d\u0f9c\u0fb7\u0fa2\u0fa1\u0fb7",
   "\u0fa7\u0fa6\u0fb7\u0fac\u0fab\u0fb7\u0fb9\u0f90\u0fb5⫝̸⫝\u0338\ufb1d\u05d9\u05b4",
   "\ufb1f\u05f2\u05b7\ufb2a\u05e9\u05c1\ufb2b\u05e9\u05c2\ufb2c\ufb49\u05c1\ufb2d\ufb49\u05c2",
   "\ufb2e\u05d0\u05b7\ufb2f\u05d0\u05b8\ufb30\u05d0\u05bc\ufb31\u05d1\u05bc\ufb32\u05d2\u05bc",
   "\ufb33\u05d3\u05bc\ufb34\u05d4\u05bc\ufb35\u05d5\u05bc\ufb36\u05d6\u05bc\ufb38\u05d8\u05bc",
   "\ufb39\u05d9\u05bc\ufb3a\u05da\u05bc\ufb3b\u05db\u05bc\ufb3c\u05dc\u05bc\ufb3e\u05de\u05bc",
   "\ufb40\u05e0\u05bc\ufb41\u05e1\u05bc\ufb43\u05e3\u05bc\ufb44\u05e4\u05bc\ufb46\u05e6\u05bc",
   "\ufb47\u05e7\u05bc\ufb48\u05e8\u05bc\ufb49\u05e9\u05bc\ufb4a\u05ea\u05bc\ufb4b\u05d5\u05b9",
   "\ufb4c\u05d1\u05bf\ufb4d\u05db\u05bf\ufb4e\u05e4\u05bf𝅗𝅥𝅗𝅥𝅘𝅥𝅘𝅥𝅘𝅥𝅮𝅘𝅥𝅮𝅘𝅥𝅯𝅘𝅥𝅯𝅘𝅥𝅰𝅘𝅥𝅰𝅘𝅥𝅱𝅘𝅥𝅱𝅘𝅥𝅲𝅘𝅥𝅲𝆹𝅥𝆹𝅥𝆺𝅥𝆺𝅥𝆹𝅥𝅮𝆹𝅥𝅮𝆺𝅥𝅮𝆺𝅥𝅮𝆹𝅥𝅯𝆹𝅥𝅯𝆺𝅥𝅯𝆺𝅥𝅯"]

structure Stand where
  first : Nat
  row : String

def stands : List Stand :=
  [⟨0x340, "\u0300\u0301"⟩, ⟨0x343, "\u0313"⟩, ⟨0x374, "\u02b9"⟩, ⟨0x37E, ";"⟩, ⟨0x387, "·"⟩,
   ⟨0x1F71, "ά"⟩, ⟨0x1F73, "έ"⟩, ⟨0x1F75, "ή"⟩, ⟨0x1F77, "ί"⟩, ⟨0x1F79, "ό"⟩, ⟨0x1F7B, "ύ"⟩,
   ⟨0x1F7D, "ώ"⟩, ⟨0x1FBB, "Ά"⟩, ⟨0x1FBE, "ι"⟩, ⟨0x1FC9, "Έ"⟩, ⟨0x1FCB, "Ή"⟩, ⟨0x1FD3, "ΐ"⟩,
   ⟨0x1FDB, "Ί"⟩, ⟨0x1FE3, "ΰ"⟩, ⟨0x1FEB, "Ύ"⟩, ⟨0x1FEE, "΅`"⟩, ⟨0x1FF9, "Ό"⟩, ⟨0x1FFB, "Ώ"⟩,
   ⟨0x1FFD, "´"⟩, ⟨0x2000, "\u2002\u2003"⟩, ⟨0x2126, "Ω"⟩, ⟨0x212A, "KÅ"⟩, ⟨0x2329, "〈〉"⟩, ⟨0xF900,
   "豈更車賈滑串句龜龜契金喇奈懶癩羅蘿螺裸邏樂洛烙珞落酪駱亂卵欄爛蘭鸞嵐濫藍襤拉臘蠟"⟩, ⟨0xF928,
   "廊朗浪狼郎來冷勞擄櫓爐盧老蘆虜路露魯鷺碌祿綠菉錄鹿論壟弄籠聾牢磊賂雷壘屢樓淚漏累"⟩, ⟨0xF950,
   "縷陋勒肋凜凌稜綾菱陵讀拏樂諾丹寧怒率異北磻便復不泌數索參塞省葉說殺辰沈拾若掠略亮"⟩, ⟨0xF978,
   "兩凉梁糧良諒量勵呂女廬旅濾礪閭驪麗黎力曆歷轢年憐戀撚漣煉璉秊練聯輦蓮連鍊列劣咽烈"⟩, ⟨0xF9A0,
   "裂說廉念捻殮簾獵令囹寧嶺怜玲瑩羚聆鈴零靈領例禮醴隸惡了僚寮尿料樂燎療蓼遼龍暈阮劉"⟩, ⟨0xF9C8,
   "杻柳流溜琉留硫紐類六戮陸倫崙淪輪律慄栗率隆利吏履易李梨泥理痢罹裏裡里離匿溺吝燐璘"⟩, ⟨0xF9F0,
   "藺隣鱗麟林淋臨立笠粒狀炙識什茶刺切度拓糖宅洞暴輻行降見廓兀嗀..塚.晴..凞猪益"⟩, ⟨0xFA18,
   "礼神祥福靖精羽.蘒.諸..逸都...飯飼館鶴郞隷侮僧免勉勤卑喝嘆器塀墨層屮悔慨憎"⟩, ⟨0xFA40,
   "懲敏既暑梅海渚漢煮爫琢碑社祉祈祐祖祝禍禎穀突節練縉繁署者臭艹艹著褐視謁謹賓贈辶逸"⟩, ⟨0xFA68,
   "難響頻恵𤋮舘..並况全侀充冀勇勺喝啕喙嗢塚墳奄奔婢嬨廒廙彩徭惘慎愈憎慠懲戴揄搜摒"⟩, ⟨0xFA90,
   "敖晴朗望杖歹殺流滛滋漢瀞煮瞧爵犯猪瑱甆画瘝瘟益盛直睊着磌窱節类絛練缾者荒華蝹襁覆"⟩, ⟨0xFAB8, "視調諸請謁諾諭謹變贈輸遲醙鉶陼難靖韛響頋頻鬒龜𢡊𢡄𣏕㮝䀘䀹𥉉𥳐𧻓齃龎"⟩,
   ⟨0x2F800, "丽丸乁𠄢你侮侻倂偺備僧像㒞𠘺免兔兤具𠔜㒹內再𠕋冗冤仌冬况𩇟凵刃㓟刻剆割剷㔕勇勉勤"⟩, ⟨0x2F828,
   "勺包匆北卉卑博即卽卿卿卿𠨬灰及叟𠭣叫叱吆咞吸呈周咢哶唐啓啣善善喙喫喳嗂圖嘆圗噑噴"⟩, ⟨0x2F850,
   "切壮城埴堍型堲報墬𡓤売壷夆多夢奢𡚨𡛪姬娛娧姘婦㛮㛼嬈嬾嬾𡧈寃寘寧寳𡬘寿将当尢㞁屠"⟩, ⟨0x2F878,
   "屮峀岍𡷤嵃𡷦嵮嵫嵼巡巢㠯巽帨帽幩㡢𢆃㡼庰庳庶廊𪎒廾𢌱𢌱舁弢弢㣇𣊸𦇚形彫㣣徚忍志忹"⟩, ⟨0x2F8A0,
   "悁㤺㤜悔𢛔惇慈慌慎慌慺憎憲憤憯懞懲懶成戛扝抱拔捐𢬌挽拼捨掃揤𢯱搢揅掩㨮摩摾撝摷㩬"⟩, ⟨0x2F8C8,
   "敏敬𣀊旣書晉㬙暑㬈㫤冒冕最暜肭䏙朗望朡杞杓𣏃㭉柺枅桒梅𣑭梎栟椔㮝楂榣槪檨𣚣櫛㰘次"⟩, ⟨0x2F8F0,
   "𣢧歔㱎歲殟殺殻𣪍𡴋𣫺汎𣲼沿泍汧洖派海流浩浸涅𣴞洴港湮㴳滋滇𣻑淹潮𣽞𣾎濆瀹瀞瀛㶖灊"⟩, ⟨0x2F918,
   "災灷炭𠔥煅𤉣熜𤎫爨爵牐𤘈犀犕𤜵𤠔獺王㺬玥㺸㺸瑇瑜瑱璅瓊㼛甤𤰶甾𤲒異𢆟瘐𤾡𤾸𥁄㿼䀈"⟩, ⟨0x2F940,
   "直𥃳𥃲𥄙𥄳眞真真睊䀹瞋䁆䂖𥐝硎碌磌䃣𥘦祖𥚚𥛅福秫䄯穀穊穏𥥼𥪧𥪧竮䈂𥮫篆築䈧𥲀糒䊠"⟩, ⟨0x2F968,
   "糨糣紀𥾆絣䌁緇縂繅䌴𦈨𦉇䍙𦋙罺𦌾羕翺者𦓚𦔣聠𦖨聰𣍟䏕育脃䐋脾媵𦞧𦞵𣎓𣎜舁舄辞䑫芑"⟩, ⟨0x2F990,
   "芋芝劳花芳芽苦𦬼若茝荣莭茣莽菧著荓菊菌菜𦰶𦵫𦳕䔫蓱蓳蔖𧏊蕤𦼬䕝䕡𦾱𧃒䕫虐虜虧虩蚩"⟩, ⟨0x2F9B8,
   "蚈蜎蛢蝹蜨蝫螆䗗蟡蠁䗹衠衣𧙧裗裞䘵裺㒻𧢮𧥦䚾䛇誠諭變豕𧲨貫賁贛起𧼯𠠄跋趼跰𠣞軔輸"⟩, ⟨0x2F9E0,
   "𨗒𨗭邔郱鄑𨜮鄛鈸鋗鋘鉼鏹鐕𨯺開䦕閷𨵷䧦雃嶲霣𩅅𩈚䩮䩶韠𩐊䪲𩒖頋頋頩𩖶飢䬳餩馧駂駾"⟩, ⟨0x2FA08, "䯎𩬰鬒鱀鳽䳎䳭鵧𪃎䳸𪄅𪈎𪊑麻䵖黹黾鼅鼏鼖鼻𪘀"⟩]

def triples : Text → List (CodePoint × CodePoint × CodePoint)
  | whole :: base :: mark :: rest => (whole, base, mark) :: triples rest
  | _ => []

def composites : List (CodePoint × CodePoint × CodePoint) := triples (composed.flatMap ofString)
def takenApart : List (CodePoint × CodePoint × CodePoint) :=
  composites ++ triples (dissolved.flatMap ofString)

def standIn? (c : CodePoint) : Option CodePoint :=
  (stands.findSome? fun s => if s.first ≤ c.val then (ofString s.row)[c.val - s.first]? else none).filter
    fun d => d.val != 46

def firstSyllable : Nat := 0xAC00
def syllables : Nat := 11172

def syllable? (c : CodePoint) : Option (CodePoint × CodePoint) :=
  if c.val < firstSyllable ∨ firstSyllable + syllables ≤ c.val then none
  else
    let n := c.val - firstSyllable
    if n % 28 = 0 then some (CodePoint.ofNat (0x1100 + n / 588), CodePoint.ofNat (0x1161 + n % 588 / 28))
    else some (CodePoint.ofNat (c.val - n % 28), CodePoint.ofNat (0x11A7 + n % 28))

def dissolve : (fuel : Nat) → CodePoint → Text
  | 0, c => [c]
  | fuel + 1, c =>
    if c.val < 0xC0 then [c]
    else match syllable? c with
      | some (base, mark) => dissolve fuel base ++ [mark]
      | none =>
        match takenApart.find? fun t => t.1 == c with
        | some (_, base, mark) => dissolve fuel base ++ dissolve fuel mark
        | none =>
          match standIn? c with
          | some d => dissolve fuel d
          | none => [c]

def placeMark (c : CodePoint) : Text → Text
  | [] => [c]
  | d :: rest =>
    if c.combiningClass < d.combiningClass then d :: placeMark c rest else c :: d :: rest

def ordered (t : Text) : Text :=
  t.foldl (fun done c => if c.combiningClass = 0 then c :: done else placeMark c done) []

def joinedPair? (base mark : CodePoint) : Option CodePoint :=
  let l := base.val - 0x1100
  let v := mark.val - 0x1161
  if 0x1100 ≤ base.val ∧ l < 19 ∧ 0x1161 ≤ mark.val ∧ v < 21 then
    some (CodePoint.ofNat (firstSyllable + (l * 21 + v) * 28))
  else if firstSyllable ≤ base.val ∧ base.val < firstSyllable + syllables ∧
      (base.val - firstSyllable) % 28 = 0 ∧ 0x11A7 < mark.val ∧ mark.val < 0x11C3 then
    some (CodePoint.ofNat (base.val + (mark.val - 0x11A7)))
  else (composites.find? fun t => t.2.1 == base && t.2.2 == mark).map (·.1)

-- A letter that may still take marks, what came behind it last first, and the class of the
-- last of these.
structure Joining where
  done : Text
  starter : Option CodePoint
  behind : Text
  lastClass : Nat

def Joining.text (j : Joining) : Text := j.behind ++ j.starter.toList ++ j.done

def Joining.add (j : Joining) (c : CodePoint) : Joining :=
  let isBlocked := !j.behind.isEmpty && (decide (c.combiningClass ≤ j.lastClass) || j.lastClass == 0)
  match if isBlocked then none else j.starter.bind fun s => joinedPair? s c with
  | some whole => { j with starter := some whole }
  | none =>
    if c.combiningClass = 0 then ⟨j.text, some c, [], 0⟩
    else { j with behind := c :: j.behind, lastClass := c.combiningClass }

def compose (t : Text) : Text :=
  let parts := (ordered (t.flatMap (dissolve 4))).reverse
  (parts.foldl Joining.add ⟨[], none, [], 0⟩).text.reverse

def isComposed (t : Text) : Bool := compose t == t

end UploadRelay.Text
