namespace Flowplan.Text

def codePages : List (List String × String) := [
  (["cp037", "037", "csibm037", "ebcdic_cp_ca", "ebcdic_cp_nl", "ebcdic_cp_us",
    "ebcdic_cp_wt", "ibm037", "ibm039"],
    "\u0000\u0001\u0002\u0003\u009C\u0009\u0086\u007F\u0097\u008D\u008E\u000B\u000C\u000D\u000E"
      ++ "\u000F\u0010\u0011\u0012\u0013\u009D\u0085\u0008\u0087\u0018\u0019\u0092\u008F\u001C"
      ++ "\u001D\u001E\u001F\u0080\u0081\u0082\u0083\u0084\u000A\u0017\u001B\u0088\u0089\u008A"
      ++ "\u008B\u008C\u0005\u0006\u0007\u0090\u0091\u0016\u0093\u0094\u0095\u0096\u0004\u0098"
      ++ "\u0099\u009A\u009B\u0014\u0015\u009E\u001A\u0020\u00A0âäàáãåçñ¢.<(+|&éêëèíîïìß!$*);¬-/ÂÄÀ"
      ++ "ÁÃÅÇÑ¦,%_>?øÉÊËÈÍÎÏÌ\u0060:#@'=\u0022Øabcdefghi«»ðýþ±°jklmnopqrªºæ\u00B8Æ¤µ~stuvwxyz¡¿ÐÝÞ"
      ++ "®\u005E£¥·©§¶¼½¾[]\u00AF\u00A8\u00B4×\u007BABCDEFGHI\u00ADôöòóõ\u007DJKLMNOPQR¹ûüùúÿ"
      ++ "\u005C÷STUVWXYZ²ÔÖÒÓÕ0123456789³ÛÜÙÚ\u009F"),
  (["cp1006"],
    "\u00A0\u06F0\u06F1\u06F2\u06F3\u06F4\u06F5\u06F6\u06F7\u06F8\u06F9\u060C\u061B\u00AD\u061F"
      ++ "\uFE81\uFE8D\uFE8E\uFE8E\uFE8F\uFE91\uFB56\uFB58\uFE93\uFE95\uFE97\uFB66\uFB68\uFE99"
      ++ "\uFE9B\uFE9D\uFE9F\uFB7A\uFB7C\uFEA1\uFEA3\uFEA5\uFEA7\uFEA9\uFB84\uFEAB\uFEAD\uFB8C"
      ++ "\uFEAF\uFB8A\uFEB1\uFEB3\uFEB5\uFEB7\uFEB9\uFEBB\uFEBD\uFEBF\uFEC1\uFEC5\uFEC9\uFECA"
      ++ "\uFECB\uFECC\uFECD\uFECE\uFECF\uFED0\uFED1\uFED3\uFED5\uFED7\uFED9\uFEDB\uFB92\uFB94"
      ++ "\uFEDD\uFEDF\uFEE0\uFEE1\uFEE3\uFB9E\uFEE5\uFEE7\uFE85\uFEED\uFBA6\uFBA8\uFBA9\uFBAA"
      ++ "\uFE80\uFE89\uFE8A\uFE8B\uFEF1\uFEF2\uFEF3\uFBB0\uFBAE\uFE7C\uFE7D"),
  (["cp1026", "1026", "csibm1026", "ibm1026"],
    "\u0000\u0001\u0002\u0003\u009C\u0009\u0086\u007F\u0097\u008D\u008E\u000B\u000C\u000D\u000E"
      ++ "\u000F\u0010\u0011\u0012\u0013\u009D\u0085\u0008\u0087\u0018\u0019\u0092\u008F\u001C"
      ++ "\u001D\u001E\u001F\u0080\u0081\u0082\u0083\u0084\u000A\u0017\u001B\u0088\u0089\u008A"
      ++ "\u008B\u008C\u0005\u0006\u0007\u0090\u0091\u0016\u0093\u0094\u0095\u0096\u0004\u0098"
      ++ "\u0099\u009A\u009B\u0014\u0015\u009E\u001A\u0020\u00A0âäàáãå\u007BñÇ.<(+!&éêëèíîïìßĞİ*);"
      ++ "\u005E-/ÂÄÀÁÃÅ[Ñş,%_>?øÉÊËÈÍÎÏÌı:ÖŞ'=ÜØabcdefghi«»\u007D\u0060¦±°jklmnopqrªºæ\u00B8Æ¤µöst"
      ++ "uvwxyz¡¿]$@®¢£¥·©§¶¼½¾¬|\u00AF\u00A8\u00B4×çABCDEFGHI\u00ADô~òóõğJKLMNOPQR¹û\u005Cùúÿü÷ST"
      ++ "UVWXYZ²Ô#ÒÓÕ0123456789³Û\u0022ÙÚ\u009F"),
  (["cp1125", "1125", "cp866u", "ibm1125", "ruscii"],
    "АБВГДЕЖЗИЙКЛМНОПРСТУФХЦЧШЩЪЫЬЭЮЯабвгдежзийклмноп░▒▓│┤╡╢╖╕╣║╗╝╜╛┐└┴┬├─┼╞╟╚╔╩╦╠═╬╧╨╤╥╙╘╒╓╫╪┘┌█▄▌"
      ++ "▐▀рстуфхцчшщъыьэюяЁёҐґЄєІіЇї·√№¤■\u00A0"),
  (["cp1140", "1140", "ibm1140"],
    "\u0000\u0001\u0002\u0003\u009C\u0009\u0086\u007F\u0097\u008D\u008E\u000B\u000C\u000D\u000E"
      ++ "\u000F\u0010\u0011\u0012\u0013\u009D\u0085\u0008\u0087\u0018\u0019\u0092\u008F\u001C"
      ++ "\u001D\u001E\u001F\u0080\u0081\u0082\u0083\u0084\u000A\u0017\u001B\u0088\u0089\u008A"
      ++ "\u008B\u008C\u0005\u0006\u0007\u0090\u0091\u0016\u0093\u0094\u0095\u0096\u0004\u0098"
      ++ "\u0099\u009A\u009B\u0014\u0015\u009E\u001A\u0020\u00A0âäàáãåçñ¢.<(+|&éêëèíîïìß!$*);¬-/ÂÄÀ"
      ++ "ÁÃÅÇÑ¦,%_>?øÉÊËÈÍÎÏÌ\u0060:#@'=\u0022Øabcdefghi«»ðýþ±°jklmnopqrªºæ\u00B8Æ€µ~stuvwxyz¡¿ÐÝÞ"
      ++ "®\u005E£¥·©§¶¼½¾[]\u00AF\u00A8\u00B4×\u007BABCDEFGHI\u00ADôöòóõ\u007DJKLMNOPQR¹ûüùúÿ"
      ++ "\u005C÷STUVWXYZ²ÔÖÒÓÕ0123456789³ÛÜÙÚ\u009F"),
  (["cp1250", "1250", "windows_1250"],
    "€\uFFFD‚\uFFFD„…†‡\uFFFD‰Š‹ŚŤŽŹ\uFFFD‘’“”•–—\uFFFD™š›śťžź\u00A0\u02C7\u02D8Ł¤Ą¦§\u00A8©Ş«¬"
      ++ "\u00AD®Ż°±\u02DBł\u00B4µ¶·\u00B8ąş»Ľ\u02DDľżŔÁÂĂÄĹĆÇČÉĘËĚÍÎĎĐŃŇÓÔŐÖ×ŘŮÚŰÜÝŢßŕáâăäĺćçčéęëě"
      ++ "íîďđńňóôőö÷řůúűüýţ\u02D9"),
  (["cp1251", "1251", "windows_1251"],
    "ЂЃ‚ѓ„…†‡€‰Љ‹ЊЌЋЏђ‘’“”•–—\uFFFD™љ›њќћџ\u00A0ЎўЈ¤Ґ¦§Ё©Є«¬\u00AD®Ї°±Ііґµ¶·ё№є»јЅѕїАБВГДЕЖЗИЙКЛМНО"
      ++ "ПРСТУФХЦЧШЩЪЫЬЭЮЯабвгдежзийклмнопрстуфхцчшщъыьэюя"),
  (["cp1252", "1252", "windows_1252"],
    "€\uFFFD‚ƒ„…†‡\u02C6‰Š‹Œ\uFFFDŽ\uFFFD\uFFFD‘’“”•–—\u02DC™š›œ\uFFFDžŸ\u00A0¡¢£¤¥¦§\u00A8©ª«¬"
      ++ "\u00AD®\u00AF°±²³\u00B4µ¶·\u00B8¹º»¼½¾¿ÀÁÂÃÄÅÆÇÈÉÊËÌÍÎÏÐÑÒÓÔÕÖ×ØÙÚÛÜÝÞßàáâãäåæçèéêëìíîïðñ"
      ++ "òóôõö÷øùúûüýþÿ"),
  (["cp1253", "1253", "windows_1253"],
    "€\uFFFD‚ƒ„…†‡\uFFFD‰\uFFFD‹\uFFFD\uFFFD\uFFFD\uFFFD\uFFFD‘’“”•–—\uFFFD™\uFFFD›\uFFFD\uFFFD"
      ++ "\uFFFD\uFFFD\u00A0\u0385Ά£¤¥¦§\u00A8©\uFFFD«¬\u00AD®―°±²³\u0384µ¶·ΈΉΊ»Ό½ΎΏΐΑΒΓΔΕΖΗΘΙΚΛΜΝΞ"
      ++ "ΟΠΡ\uFFFDΣΤΥΦΧΨΩΪΫάέήίΰαβγδεζηθικλμνξοπρςστυφχψωϊϋόύώ\uFFFD"),
  (["cp1254", "1254", "windows_1254"],
    "€\uFFFD‚ƒ„…†‡\u02C6‰Š‹Œ\uFFFD\uFFFD\uFFFD\uFFFD‘’“”•–—\u02DC™š›œ\uFFFD\uFFFDŸ\u00A0¡¢£¤¥¦§"
      ++ "\u00A8©ª«¬\u00AD®\u00AF°±²³\u00B4µ¶·\u00B8¹º»¼½¾¿ÀÁÂÃÄÅÆÇÈÉÊËÌÍÎÏĞÑÒÓÔÕÖ×ØÙÚÛÜİŞßàáâãäåæç"
      ++ "èéêëìíîïğñòóôõö÷øùúûüışÿ"),
  (["cp1255", "1255", "windows_1255"],
    "€\uFFFD‚ƒ„…†‡\u02C6‰\uFFFD‹\uFFFD\uFFFD\uFFFD\uFFFD\uFFFD‘’“”•–—\u02DC™\uFFFD›\uFFFD\uFFFD"
      ++ "\uFFFD\uFFFD\u00A0¡¢£₪¥¦§\u00A8©×«¬\u00AD®\u00AF°±²³\u00B4µ¶·\u00B8¹÷»¼½¾¿\u05B0\u05B1"
      ++ "\u05B2\u05B3\u05B4\u05B5\u05B6\u05B7\u05B8\u05B9\uFFFD\u05BB\u05BC\u05BD\u05BE\u05BF"
      ++ "\u05C0\u05C1\u05C2\u05C3\u05F0\u05F1\u05F2\u05F3\u05F4\uFFFD\uFFFD\uFFFD\uFFFD\uFFFD"
      ++ "\uFFFD\uFFFD\u05D0\u05D1\u05D2\u05D3\u05D4\u05D5\u05D6\u05D7\u05D8\u05D9\u05DA\u05DB"
      ++ "\u05DC\u05DD\u05DE\u05DF\u05E0\u05E1\u05E2\u05E3\u05E4\u05E5\u05E6\u05E7\u05E8\u05E9"
      ++ "\u05EA\uFFFD\uFFFD\u200E\u200F\uFFFD"),
  (["cp1256", "1256", "windows_1256"],
    "€\u067E‚ƒ„…†‡\u02C6‰\u0679‹Œ\u0686\u0698\u0688\u06AF‘’“”•–—\u06A9™\u0691›œ\u200C\u200D\u06BA"
      ++ "\u00A0\u060C¢£¤¥¦§\u00A8©\u06BE«¬\u00AD®\u00AF°±²³\u00B4µ¶·\u00B8¹\u061B»¼½¾\u061F\u06C1"
      ++ "\u0621\u0622\u0623\u0624\u0625\u0626\u0627\u0628\u0629\u062A\u062B\u062C\u062D\u062E"
      ++ "\u062F\u0630\u0631\u0632\u0633\u0634\u0635\u0636×\u0637\u0638\u0639\u063A\u0640\u0641"
      ++ "\u0642\u0643à\u0644â\u0645\u0646\u0647\u0648çèéêë\u0649\u064Aîï\u064B\u064C\u064D\u064Eô"
      ++ "\u064F\u0650÷\u0651ù\u0652ûü\u200E\u200F\u06D2"),
  (["cp1257", "1257", "windows_1257"],
    "€\uFFFD‚\uFFFD„…†‡\uFFFD‰\uFFFD‹\uFFFD\u00A8\u02C7\u00B8\uFFFD‘’“”•–—\uFFFD™\uFFFD›\uFFFD"
      ++ "\u00AF\u02DB\uFFFD\u00A0\uFFFD¢£¤\uFFFD¦§Ø©Ŗ«¬\u00AD®Æ°±²³\u00B4µ¶·ø¹ŗ»¼½¾æĄĮĀĆÄÅĘĒČÉŹĖĢĶ"
      ++ "ĪĻŠŃŅÓŌÕÖ×ŲŁŚŪÜŻŽßąįāćäåęēčéźėģķīļšńņóōõö÷ųłśūüżž\u02D9"),
  (["cp1258", "1258", "windows_1258"],
    "€\uFFFD‚ƒ„…†‡\u02C6‰\uFFFD‹Œ\uFFFD\uFFFD\uFFFD\uFFFD‘’“”•–—\u02DC™\uFFFD›œ\uFFFD\uFFFDŸ\u00A0¡"
      ++ "¢£¤¥¦§\u00A8©ª«¬\u00AD®\u00AF°±²³\u00B4µ¶·\u00B8¹º»¼½¾¿ÀÁÂĂÄÅÆÇÈÉÊË\u0300ÍÎÏĐÑ\u0309ÓÔƠÖ×"
      ++ "ØÙÚÛÜƯ\u0303ßàáâăäåæçèéêë\u0301íîïđñ\u0323óôơö÷øùúûüư₫ÿ"),
  (["cp273", "273", "csibm273", "ibm273"],
    "\u0000\u0001\u0002\u0003\u009C\u0009\u0086\u007F\u0097\u008D\u008E\u000B\u000C\u000D\u000E"
      ++ "\u000F\u0010\u0011\u0012\u0013\u009D\u0085\u0008\u0087\u0018\u0019\u0092\u008F\u001C"
      ++ "\u001D\u001E\u001F\u0080\u0081\u0082\u0083\u0084\u000A\u0017\u001B\u0088\u0089\u008A"
      ++ "\u008B\u008C\u0005\u0006\u0007\u0090\u0091\u0016\u0093\u0094\u0095\u0096\u0004\u0098"
      ++ "\u0099\u009A\u009B\u0014\u0015\u009E\u001A\u0020\u00A0â\u007BàáãåçñÄ.<(+!&éêëèíîïì~Ü$*);"
      ++ "\u005E-/Â[ÀÁÃÅÇÑö,%_>?øÉÊËÈÍÎÏÌ\u0060:#§'=\u0022Øabcdefghi«»ðýþ±°jklmnopqrªºæ\u00B8Æ¤µßst"
      ++ "uvwxyz¡¿ÐÝÞ®¢£¥·©@¶¼½¾¬|‾\u00A8\u00B4×äABCDEFGHI\u00ADô¦òóõüJKLMNOPQR¹û\u007DùúÿÖ÷STUVWXY"
      ++ "Z²Ô\u005CÒÓÕ0123456789³Û]ÙÚ\u009F"),
  (["cp424", "424", "csibm424", "ebcdic_cp_he", "ibm424"],
    "\u0000\u0001\u0002\u0003\u009C\u0009\u0086\u007F\u0097\u008D\u008E\u000B\u000C\u000D\u000E"
      ++ "\u000F\u0010\u0011\u0012\u0013\u009D\u0085\u0008\u0087\u0018\u0019\u0092\u008F\u001C"
      ++ "\u001D\u001E\u001F\u0080\u0081\u0082\u0083\u0084\u000A\u0017\u001B\u0088\u0089\u008A"
      ++ "\u008B\u008C\u0005\u0006\u0007\u0090\u0091\u0016\u0093\u0094\u0095\u0096\u0004\u0098"
      ++ "\u0099\u009A\u009B\u0014\u0015\u009E\u001A\u0020\u05D0\u05D1\u05D2\u05D3\u05D4\u05D5"
      ++ "\u05D6\u05D7\u05D8¢.<(+|&\u05D9\u05DA\u05DB\u05DC\u05DD\u05DE\u05DF\u05E0\u05E1!$*);¬-/"
      ++ "\u05E2\u05E3\u05E4\u05E5\u05E6\u05E7\u05E8\u05E9¦,%_>?\uFFFD\u05EA\uFFFD\uFFFD\u00A0"
      ++ "\uFFFD\uFFFD\uFFFD‗\u0060:#@'=\u0022\uFFFDabcdefghi«»\uFFFD\uFFFD\uFFFD±°jklmnopqr\uFFFD"
      ++ "\uFFFD\uFFFD\u00B8\uFFFD¤µ~stuvwxyz\uFFFD\uFFFD\uFFFD\uFFFD\uFFFD®\u005E£¥·©§¶¼½¾[]\u00AF"
      ++ "\u00A8\u00B4×\u007BABCDEFGHI\u00AD\uFFFD\uFFFD\uFFFD\uFFFD\uFFFD\u007DJKLMNOPQR¹\uFFFD"
      ++ "\uFFFD\uFFFD\uFFFD\uFFFD\u005C÷STUVWXYZ²\uFFFD\uFFFD\uFFFD\uFFFD\uFFFD0123456789³\uFFFD"
      ++ "\uFFFD\uFFFD\uFFFD\u009F"),
  (["cp437", "437", "cspc8codepage437", "ibm437"],
    "ÇüéâäàåçêëèïîìÄÅÉæÆôöòûùÿÖÜ¢£¥₧ƒáíóúñÑªº¿⌐¬½¼¡«»░▒▓│┤╡╢╖╕╣║╗╝╜╛┐└┴┬├─┼╞╟╚╔╩╦╠═╬╧╨╤╥╙╘╒╓╫╪┘┌█▄▌"
      ++ "▐▀αßΓπΣσµτΦΘΩδ∞φε∩≡±≥≤⌠⌡÷≈°∙·√\u207F²■\u00A0"),
  (["cp500", "500", "csibm500", "ebcdic_cp_be", "ebcdic_cp_ch", "ibm500"],
    "\u0000\u0001\u0002\u0003\u009C\u0009\u0086\u007F\u0097\u008D\u008E\u000B\u000C\u000D\u000E"
      ++ "\u000F\u0010\u0011\u0012\u0013\u009D\u0085\u0008\u0087\u0018\u0019\u0092\u008F\u001C"
      ++ "\u001D\u001E\u001F\u0080\u0081\u0082\u0083\u0084\u000A\u0017\u001B\u0088\u0089\u008A"
      ++ "\u008B\u008C\u0005\u0006\u0007\u0090\u0091\u0016\u0093\u0094\u0095\u0096\u0004\u0098"
      ++ "\u0099\u009A\u009B\u0014\u0015\u009E\u001A\u0020\u00A0âäàáãåçñ[.<(+!&éêëèíîïìß]$*);\u005E"
      ++ "-/ÂÄÀÁÃÅÇÑ¦,%_>?øÉÊËÈÍÎÏÌ\u0060:#@'=\u0022Øabcdefghi«»ðýþ±°jklmnopqrªºæ\u00B8Æ¤µ~stuvwxyz"
      ++ "¡¿ÐÝÞ®¢£¥·©§¶¼½¾¬|\u00AF\u00A8\u00B4×\u007BABCDEFGHI\u00ADôöòóõ\u007DJKLMNOPQR¹ûüùúÿ"
      ++ "\u005C÷STUVWXYZ²ÔÖÒÓÕ0123456789³ÛÜÙÚ\u009F"),
  (["cp720"],
    "\u0080\u0081éâ\u0084à\u0086çêëèïî\u008D\u008E\u008F\u0090\u0651\u0652ô¤\u0640ûù\u0621\u0622"
      ++ "\u0623\u0624£\u0625\u0626\u0627\u0628\u0629\u062A\u062B\u062C\u062D\u062E\u062F\u0630"
      ++ "\u0631\u0632\u0633\u0634\u0635«»░▒▓│┤╡╢╖╕╣║╗╝╜╛┐└┴┬├─┼╞╟╚╔╩╦╠═╬╧╨╤╥╙╘╒╓╫╪┘┌█▄▌▐▀\u0636"
      ++ "\u0637\u0638\u0639\u063A\u0641µ\u0642\u0643\u0644\u0645\u0646\u0647\u0648\u0649\u064A≡"
      ++ "\u064B\u064C\u064D\u064E\u064F\u0650≈°∙·√\u207F²■\u00A0"),
  (["cp737"],
    "ΑΒΓΔΕΖΗΘΙΚΛΜΝΞΟΠΡΣΤΥΦΧΨΩαβγδεζηθικλμνξοπρσςτυφχψ░▒▓│┤╡╢╖╕╣║╗╝╜╛┐└┴┬├─┼╞╟╚╔╩╦╠═╬╧╨╤╥╙╘╒╓╫╪┘┌█▄▌"
      ++ "▐▀ωάέήϊίόύϋώΆΈΉΊΌΎΏ±≥≤ΪΫ÷≈°∙·√\u207F²■\u00A0"),
  (["cp775", "775", "cspc775baltic", "ibm775"],
    "ĆüéāäģåćłēŖŗīŹÄÅÉæÆōöĢ¢ŚśÖÜø£Ø×¤ĀĪóŻżź”¦©®¬½¼Ł«»░▒▓│┤ĄČĘĖ╣║╗╝ĮŠ┐└┴┬├─┼ŲŪ╚╔╩╦╠═╬Žąčęėįšųūž┘┌█▄▌"
      ++ "▐▀ÓßŌŃõÕµńĶķĻļņĒŅ’\u00AD±“¾¶§÷„°∙·¹³²■\u00A0"),
  (["cp850", "850", "cspc850multilingual", "ibm850"],
    "ÇüéâäàåçêëèïîìÄÅÉæÆôöòûùÿÖÜø£Ø×ƒáíóúñÑªº¿®¬½¼¡«»░▒▓│┤ÁÂÀ©╣║╗╝¢¥┐└┴┬├─┼ãÃ╚╔╩╦╠═╬¤ðÐÊËÈıÍÎÏ┘┌█▄¦"
      ++ "Ì▀ÓßÔÒõÕµþÞÚÛÙýÝ\u00AF\u00B4\u00AD±‗¾¶§÷\u00B8°\u00A8·¹³²■\u00A0"),
  (["cp852", "852", "cspcp852", "ibm852"],
    "ÇüéâäůćçłëŐőîŹÄĆÉĹĺôöĽľŚśÖÜŤťŁ×čáíóúĄąŽžĘę¬źČş«»░▒▓│┤ÁÂĚŞ╣║╗╝Żż┐└┴┬├─┼Ăă╚╔╩╦╠═╬¤đĐĎËďŇÍÎě┘┌█▄Ţ"
      ++ "Ů▀ÓßÔŃńňŠšŔÚŕŰýÝţ\u00B4\u00AD\u02DD\u02DB\u02C7\u02D8§÷\u00B8°\u00A8\u02D9űŘř■\u00A0"),
  (["cp855", "855", "csibm855", "ibm855"],
    "ђЂѓЃёЁєЄѕЅіІїЇјЈљЉњЊћЋќЌўЎџЏюЮъЪаАбБцЦдДеЕфФгГ«»░▒▓│┤хХиИ╣║╗╝йЙ┐└┴┬├─┼кК╚╔╩╦╠═╬¤лЛмМнНоОп┘┌█▄П"
      ++ "я▀ЯрРсСтТуУжЖвВьЬ№\u00ADыЫзЗшШэЭщЩчЧ§■\u00A0"),
  (["cp856"],
    "\u05D0\u05D1\u05D2\u05D3\u05D4\u05D5\u05D6\u05D7\u05D8\u05D9\u05DA\u05DB\u05DC\u05DD\u05DE"
      ++ "\u05DF\u05E0\u05E1\u05E2\u05E3\u05E4\u05E5\u05E6\u05E7\u05E8\u05E9\u05EA\uFFFD£\uFFFD×"
      ++ "\uFFFD\uFFFD\uFFFD\uFFFD\uFFFD\uFFFD\uFFFD\uFFFD\uFFFD\uFFFD®¬½¼\uFFFD«»░▒▓│┤\uFFFD\uFFFD"
      ++ "\uFFFD©╣║╗╝¢¥┐└┴┬├─┼\uFFFD\uFFFD╚╔╩╦╠═╬¤\uFFFD\uFFFD\uFFFD\uFFFD\uFFFD\uFFFD\uFFFD\uFFFD"
      ++ "\uFFFD┘┌█▄¦\uFFFD▀\uFFFD\uFFFD\uFFFD\uFFFD\uFFFD\uFFFDµ\uFFFD\uFFFD\uFFFD\uFFFD\uFFFD"
      ++ "\uFFFD\uFFFD\u00AF\u00B4\u00AD±‗¾¶§÷\u00B8°\u00A8·¹³²■\u00A0"),
  (["cp857", "857", "csibm857", "ibm857"],
    "ÇüéâäàåçêëèïîıÄÅÉæÆôöòûùİÖÜø£ØŞşáíóúñÑĞğ¿®¬½¼¡«»░▒▓│┤ÁÂÀ©╣║╗╝¢¥┐└┴┬├─┼ãÃ╚╔╩╦╠═╬¤ºªÊËÈ\uFFFDÍÎÏ"
      ++ "┘┌█▄¦Ì▀ÓßÔÒõÕµ\uFFFD×ÚÛÙìÿ\u00AF\u00B4\u00AD±\uFFFD¾¶§÷\u00B8°\u00A8·¹³²■\u00A0"),
  (["cp858", "858", "csibm858", "ibm858"],
    "ÇüéâäàåçêëèïîìÄÅÉæÆôöòûùÿÖÜø£Ø×ƒáíóúñÑªº¿®¬½¼¡«»░▒▓│┤ÁÂÀ©╣║╗╝¢¥┐└┴┬├─┼ãÃ╚╔╩╦╠═╬¤ðÐÊËÈ€ÍÎÏ┘┌█▄¦"
      ++ "Ì▀ÓßÔÒõÕµþÞÚÛÙýÝ\u00AF\u00B4\u00AD±‗¾¶§÷\u00B8°\u00A8·¹³²■\u00A0"),
  (["cp860", "860", "csibm860", "ibm860"],
    "ÇüéâãàÁçêÊèÍÔìÃÂÉÀÈôõòÚùÌÕÜ¢£Ù₧ÓáíóúñÑªº¿Ò¬½¼¡«»░▒▓│┤╡╢╖╕╣║╗╝╜╛┐└┴┬├─┼╞╟╚╔╩╦╠═╬╧╨╤╥╙╘╒╓╫╪┘┌█▄▌"
      ++ "▐▀αßΓπΣσµτΦΘΩδ∞φε∩≡±≥≤⌠⌡÷≈°∙·√\u207F²■\u00A0"),
  (["cp861", "861", "cp_is", "csibm861", "ibm861"],
    "ÇüéâäàåçêëèÐðÞÄÅÉæÆôöþûÝýÖÜø£Ø₧ƒáíóúÁÍÓÚ¿⌐¬½¼¡«»░▒▓│┤╡╢╖╕╣║╗╝╜╛┐└┴┬├─┼╞╟╚╔╩╦╠═╬╧╨╤╥╙╘╒╓╫╪┘┌█▄▌"
      ++ "▐▀αßΓπΣσµτΦΘΩδ∞φε∩≡±≥≤⌠⌡÷≈°∙·√\u207F²■\u00A0"),
  (["cp862", "862", "cspc862latinhebrew", "ibm862"],
    "\u05D0\u05D1\u05D2\u05D3\u05D4\u05D5\u05D6\u05D7\u05D8\u05D9\u05DA\u05DB\u05DC\u05DD\u05DE"
      ++ "\u05DF\u05E0\u05E1\u05E2\u05E3\u05E4\u05E5\u05E6\u05E7\u05E8\u05E9\u05EA¢£¥₧ƒáíóúñÑªº¿⌐¬½"
      ++ "¼¡«»░▒▓│┤╡╢╖╕╣║╗╝╜╛┐└┴┬├─┼╞╟╚╔╩╦╠═╬╧╨╤╥╙╘╒╓╫╪┘┌█▄▌▐▀αßΓπΣσµτΦΘΩδ∞φε∩≡±≥≤⌠⌡÷≈°∙·√\u207F²■"
      ++ "\u00A0"),
  (["cp863", "863", "csibm863", "ibm863"],
    "ÇüéâÂà¶çêëèïî‗À§ÉÈÊôËÏûù¤ÔÜ¢£ÙÛƒ¦\u00B4óú\u00A8\u00B8³\u00AFÎ⌐¬½¼¾«»░▒▓│┤╡╢╖╕╣║╗╝╜╛┐└┴┬├─┼╞╟╚╔"
      ++ "╩╦╠═╬╧╨╤╥╙╘╒╓╫╪┘┌█▄▌▐▀αßΓπΣσµτΦΘΩδ∞φε∩≡±≥≤⌠⌡÷≈°∙·√\u207F²■\u00A0"),
  (["cp864", "864", "csibm864", "ibm864"],
    "\u0000\u0001\u0002\u0003\u0004\u0005\u0006\u0007\u0008\u0009\u000A\u000B\u000C\u000D\u000E"
      ++ "\u000F\u0010\u0011\u0012\u0013\u0014\u0015\u0016\u0017\u0018\u0019\u001A\u001B\u001C"
      ++ "\u001D\u001E\u001F\u0020!\u0022#$\u066A&'()*+,-./0123456789:;<=>?@ABCDEFGHIJKLMNOPQRSTUVW"
      ++ "XYZ[\u005C]\u005E_\u0060abcdefghijklmnopqrstuvwxyz\u007B|\u007D~\u007F°·∙√▒─│┼┤┬├┴┐┌└┘β∞φ"
      ++ "±½¼≈«»\uFEF7\uFEF8\uFFFD\uFFFD\uFEFB\uFEFC\uFFFD\u00A0\u00AD\uFE82£¤\uFE84\uFFFD\uFFFD"
      ++ "\uFE8E\uFE8F\uFE95\uFE99\u060C\uFE9D\uFEA1\uFEA5\u0660\u0661\u0662\u0663\u0664\u0665"
      ++ "\u0666\u0667\u0668\u0669\uFED1\u061B\uFEB1\uFEB5\uFEB9\u061F¢\uFE80\uFE81\uFE83\uFE85"
      ++ "\uFECA\uFE8B\uFE8D\uFE91\uFE93\uFE97\uFE9B\uFE9F\uFEA3\uFEA7\uFEA9\uFEAB\uFEAD\uFEAF"
      ++ "\uFEB3\uFEB7\uFEBB\uFEBF\uFEC1\uFEC5\uFECB\uFECF¦¬÷×\uFEC9\u0640\uFED3\uFED7\uFEDB\uFEDF"
      ++ "\uFEE3\uFEE7\uFEEB\uFEED\uFEEF\uFEF3\uFEBD\uFECC\uFECE\uFECD\uFEE1\uFE7D\u0651\uFEE5"
      ++ "\uFEE9\uFEEC\uFEF0\uFEF2\uFED0\uFED5\uFEF5\uFEF6\uFEDD\uFED9\uFEF1■\uFFFD"),
  (["cp865", "865", "csibm865", "ibm865"],
    "ÇüéâäàåçêëèïîìÄÅÉæÆôöòûùÿÖÜø£Ø₧ƒáíóúñÑªº¿⌐¬½¼¡«¤░▒▓│┤╡╢╖╕╣║╗╝╜╛┐└┴┬├─┼╞╟╚╔╩╦╠═╬╧╨╤╥╙╘╒╓╫╪┘┌█▄▌"
      ++ "▐▀αßΓπΣσµτΦΘΩδ∞φε∩≡±≥≤⌠⌡÷≈°∙·√\u207F²■\u00A0"),
  (["cp866", "866", "csibm866", "ibm866"],
    "АБВГДЕЖЗИЙКЛМНОПРСТУФХЦЧШЩЪЫЬЭЮЯабвгдежзийклмноп░▒▓│┤╡╢╖╕╣║╗╝╜╛┐└┴┬├─┼╞╟╚╔╩╦╠═╬╧╨╤╥╙╘╒╓╫╪┘┌█▄▌"
      ++ "▐▀рстуфхцчшщъыьэюяЁёЄєЇїЎў°∙·√№¤■\u00A0"),
  (["cp869", "869", "cp_gr", "csibm869", "ibm869"],
    "\uFFFD\uFFFD\uFFFD\uFFFD\uFFFD\uFFFDΆ\uFFFD·¬¦‘’Έ―ΉΊΪΌ\uFFFD\uFFFDΎΫ©Ώ²³ά£έήίϊΐόύΑΒΓΔΕΖΗ½ΘΙ«»░"
      ++ "▒▓│┤ΚΛΜΝ╣║╗╝ΞΟ┐└┴┬├─┼ΠΡ╚╔╩╦╠═╬ΣΤΥΦΧΨΩαβγ┘┌█▄δε▀ζηθικλμνξοπρσςτ\u0384\u00AD±υφχ§ψ\u0385°"
      ++ "\u00A8ωϋΰώ■\u00A0"),
  (["cp874"],
    "€\uFFFD\uFFFD\uFFFD\uFFFD…\uFFFD\uFFFD\uFFFD\uFFFD\uFFFD\uFFFD\uFFFD\uFFFD\uFFFD\uFFFD\uFFFD‘’"
      ++ "“”•–—\uFFFD\uFFFD\uFFFD\uFFFD\uFFFD\uFFFD\uFFFD\uFFFD\u00A0\u0E01\u0E02\u0E03\u0E04\u0E05"
      ++ "\u0E06\u0E07\u0E08\u0E09\u0E0A\u0E0B\u0E0C\u0E0D\u0E0E\u0E0F\u0E10\u0E11\u0E12\u0E13"
      ++ "\u0E14\u0E15\u0E16\u0E17\u0E18\u0E19\u0E1A\u0E1B\u0E1C\u0E1D\u0E1E\u0E1F\u0E20\u0E21"
      ++ "\u0E22\u0E23\u0E24\u0E25\u0E26\u0E27\u0E28\u0E29\u0E2A\u0E2B\u0E2C\u0E2D\u0E2E\u0E2F"
      ++ "\u0E30\u0E31\u0E32\u0E33\u0E34\u0E35\u0E36\u0E37\u0E38\u0E39\u0E3A\uFFFD\uFFFD\uFFFD"
      ++ "\uFFFD\u0E3F\u0E40\u0E41\u0E42\u0E43\u0E44\u0E45\u0E46\u0E47\u0E48\u0E49\u0E4A\u0E4B"
      ++ "\u0E4C\u0E4D\u0E4E\u0E4F\u0E50\u0E51\u0E52\u0E53\u0E54\u0E55\u0E56\u0E57\u0E58\u0E59"
      ++ "\u0E5A\u0E5B\uFFFD\uFFFD\uFFFD\uFFFD"),
  (["cp875"],
    "\u0000\u0001\u0002\u0003\u009C\u0009\u0086\u007F\u0097\u008D\u008E\u000B\u000C\u000D\u000E"
      ++ "\u000F\u0010\u0011\u0012\u0013\u009D\u0085\u0008\u0087\u0018\u0019\u0092\u008F\u001C"
      ++ "\u001D\u001E\u001F\u0080\u0081\u0082\u0083\u0084\u000A\u0017\u001B\u0088\u0089\u008A"
      ++ "\u008B\u008C\u0005\u0006\u0007\u0090\u0091\u0016\u0093\u0094\u0095\u0096\u0004\u0098"
      ++ "\u0099\u009A\u009B\u0014\u0015\u009E\u001A\u0020ΑΒΓΔΕΖΗΘΙ[.<(+!&ΚΛΜΝΞΟΠΡΣ]$*);\u005E-/ΤΥΦ"
      ++ "ΧΨΩΪΫ|,%_>?\u00A8ΆΈΉ\u00A0ΊΌΎΏ\u0060:#@'=\u0022\u0385abcdefghiαβγδεζ°jklmnopqrηθικλμ"
      ++ "\u00B4~stuvwxyzνξοπρσ£άέήϊίόύϋώςτυφχψ\u007BABCDEFGHI\u00ADωΐΰ‘―\u007DJKLMNOPQR±½\u001A·’¦"
      ++ "\u005C\u001ASTUVWXYZ²§\u001A\u001A«¬0123456789³©\u001A\u001A»\u009F"),
  (["hp_roman8", "cp1051", "csHPRoman8", "ibm1051", "r8", "roman8"],
    "\u00A0ÀÂÈÊËÎÏ\u00B4\u02CB\u02C6\u00A8\u02DCÙÛ₤\u00AFÝý°ÇçÑñ¡¿¤£¥§ƒ¢âêôûáéóúàèòùäëöüÅîØÆåíøæÄìÖ"
      ++ "ÜÉïßÔÁÃãÐðÍÌÓÒÕõŠšÚŸÿÞþ·µ¶¾—¼½ªº«■»±\uFFFD"),
  (["iso8859_1"],
    "\u00A0¡¢£¤¥¦§\u00A8©ª«¬\u00AD®\u00AF°±²³\u00B4µ¶·\u00B8¹º»¼½¾¿ÀÁÂÃÄÅÆÇÈÉÊËÌÍÎÏÐÑÒÓÔÕÖ×ØÙÚÛÜÝÞß"
      ++ "àáâãäåæçèéêëìíîïðñòóôõö÷øùúûüýþÿ"),
  (["iso8859_10", "csisolatin6", "iso_8859_10", "iso_8859_10_1992", "iso_ir_157", "l6", "latin6"],
    "\u00A0ĄĒĢĪĨĶ§ĻĐŠŦŽ\u00ADŪŊ°ąēģīĩķ·ļđšŧž―ūŋĀÁÂÃÄÅÆĮČÉĘËĖÍÎÏÐŅŌÓÔÕÖŨØŲÚÛÜÝÞßāáâãäåæįčéęëėíîïðņōó"
      ++ "ôõöũøųúûüýþĸ"),
  (["iso8859_11", "iso_8859_11", "iso_8859_11_2001", "thai"],
    "\u00A0\u0E01\u0E02\u0E03\u0E04\u0E05\u0E06\u0E07\u0E08\u0E09\u0E0A\u0E0B\u0E0C\u0E0D\u0E0E"
      ++ "\u0E0F\u0E10\u0E11\u0E12\u0E13\u0E14\u0E15\u0E16\u0E17\u0E18\u0E19\u0E1A\u0E1B\u0E1C"
      ++ "\u0E1D\u0E1E\u0E1F\u0E20\u0E21\u0E22\u0E23\u0E24\u0E25\u0E26\u0E27\u0E28\u0E29\u0E2A"
      ++ "\u0E2B\u0E2C\u0E2D\u0E2E\u0E2F\u0E30\u0E31\u0E32\u0E33\u0E34\u0E35\u0E36\u0E37\u0E38"
      ++ "\u0E39\u0E3A\uFFFD\uFFFD\uFFFD\uFFFD\u0E3F\u0E40\u0E41\u0E42\u0E43\u0E44\u0E45\u0E46"
      ++ "\u0E47\u0E48\u0E49\u0E4A\u0E4B\u0E4C\u0E4D\u0E4E\u0E4F\u0E50\u0E51\u0E52\u0E53\u0E54"
      ++ "\u0E55\u0E56\u0E57\u0E58\u0E59\u0E5A\u0E5B\uFFFD\uFFFD\uFFFD\uFFFD"),
  (["iso8859_13", "iso_8859_13", "l7", "latin7"],
    "\u00A0”¢£¤„¦§Ø©Ŗ«¬\u00AD®Æ°±²³“µ¶·ø¹ŗ»¼½¾æĄĮĀĆÄÅĘĒČÉŹĖĢĶĪĻŠŃŅÓŌÕÖ×ŲŁŚŪÜŻŽßąįāćäåęēčéźėģķīļšńņó"
      ++ "ōõö÷ųłśūüżž’"),
  (["iso8859_14", "iso_8859_14", "iso_8859_14_1998", "iso_celtic", "iso_ir_199", "l8", "latin8"],
    "\u00A0Ḃḃ£ĊċḊ§Ẁ©ẂḋỲ\u00AD®ŸḞḟĠġṀṁ¶ṖẁṗẃṠỳẄẅṡÀÁÂÃÄÅÆÇÈÉÊËÌÍÎÏŴÑÒÓÔÕÖṪØÙÚÛÜÝŶßàáâãäåæçèéêëìíîïŵñòó"
      ++ "ôõöṫøùúûüýŷÿ"),
  (["iso8859_15", "iso_8859_15", "l9", "latin9"],
    "\u00A0¡¢£€¥Š§š©ª«¬\u00AD®\u00AF°±²³Žµ¶·ž¹º»ŒœŸ¿ÀÁÂÃÄÅÆÇÈÉÊËÌÍÎÏÐÑÒÓÔÕÖ×ØÙÚÛÜÝÞßàáâãäåæçèéêëìíî"
      ++ "ïðñòóôõö÷øùúûüýþÿ"),
  (["iso8859_16", "iso_8859_16", "iso_8859_16_2001", "iso_ir_226", "l10", "latin10"],
    "\u00A0ĄąŁ€„Š§š©Ș«Ź\u00ADźŻ°±ČłŽ”¶·žčș»ŒœŸżÀÁÂĂÄĆÆÇÈÉÊËÌÍÎÏĐŃÒÓÔŐÖŚŰÙÚÛÜĘȚßàáâăäćæçèéêëìíîïđńòó"
      ++ "ôőöśűùúûüęțÿ"),
  (["iso8859_2", "csisolatin2", "iso_8859_2", "iso_8859_2_1987", "iso_ir_101", "l2", "latin2"],
    "\u00A0Ą\u02D8Ł¤ĽŚ§\u00A8ŠŞŤŹ\u00ADŽŻ°ą\u02DBł\u00B4ľś\u02C7\u00B8šşťź\u02DDžżŔÁÂĂÄĹĆÇČÉĘËĚÍÎĎĐ"
      ++ "ŃŇÓÔŐÖ×ŘŮÚŰÜÝŢßŕáâăäĺćçčéęëěíîďđńňóôőö÷řůúűüýţ\u02D9"),
  (["iso8859_3", "csisolatin3", "iso_8859_3", "iso_8859_3_1988", "iso_ir_109", "l3", "latin3"],
    "\u00A0Ħ\u02D8£¤\uFFFDĤ§\u00A8İŞĞĴ\u00AD\uFFFDŻ°ħ²³\u00B4µĥ·\u00B8ışğĵ½\uFFFDżÀÁÂ\uFFFDÄĊĈÇÈÉÊË"
      ++ "ÌÍÎÏ\uFFFDÑÒÓÔĠÖ×ĜÙÚÛÜŬŜßàáâ\uFFFDäċĉçèéêëìíîï\uFFFDñòóôġö÷ĝùúûüŭŝ\u02D9"),
  (["iso8859_4", "csisolatin4", "iso_8859_4", "iso_8859_4_1988", "iso_ir_110", "l4", "latin4"],
    "\u00A0ĄĸŖ¤ĨĻ§\u00A8ŠĒĢŦ\u00ADŽ\u00AF°ą\u02DBŗ\u00B4ĩļ\u02C7\u00B8šēģŧŊžŋĀÁÂÃÄÅÆĮČÉĘËĖÍÎĪĐŅŌĶÔÕ"
      ++ "Ö×ØŲÚÛÜŨŪßāáâãäåæįčéęëėíîīđņōķôõö÷øųúûüũū\u02D9"),
  (["iso8859_5", "csisolatincyrillic", "cyrillic", "iso_8859_5", "iso_8859_5_1988", "iso_ir_144"],
    "\u00A0ЁЂЃЄЅІЇЈЉЊЋЌ\u00ADЎЏАБВГДЕЖЗИЙКЛМНОПРСТУФХЦЧШЩЪЫЬЭЮЯабвгдежзийклмнопрстуфхцчшщъыьэюя№ёђѓ"
      ++ "єѕіїјљњћќ§ўџ"),
  (["iso8859_6", "arabic", "asmo_708", "csisolatinarabic", "ecma_114", "iso_8859_6",
    "iso_8859_6_1987", "iso_ir_127"],
    "\u00A0\uFFFD\uFFFD\uFFFD¤\uFFFD\uFFFD\uFFFD\uFFFD\uFFFD\uFFFD\uFFFD\u060C\u00AD\uFFFD\uFFFD"
      ++ "\uFFFD\uFFFD\uFFFD\uFFFD\uFFFD\uFFFD\uFFFD\uFFFD\uFFFD\uFFFD\uFFFD\u061B\uFFFD\uFFFD"
      ++ "\uFFFD\u061F\uFFFD\u0621\u0622\u0623\u0624\u0625\u0626\u0627\u0628\u0629\u062A\u062B"
      ++ "\u062C\u062D\u062E\u062F\u0630\u0631\u0632\u0633\u0634\u0635\u0636\u0637\u0638\u0639"
      ++ "\u063A\uFFFD\uFFFD\uFFFD\uFFFD\uFFFD\u0640\u0641\u0642\u0643\u0644\u0645\u0646\u0647"
      ++ "\u0648\u0649\u064A\u064B\u064C\u064D\u064E\u064F\u0650\u0651\u0652\uFFFD\uFFFD\uFFFD"
      ++ "\uFFFD\uFFFD\uFFFD\uFFFD\uFFFD\uFFFD\uFFFD\uFFFD\uFFFD\uFFFD"),
  (["iso8859_7", "csisolatingreek", "ecma_118", "elot_928", "greek", "greek8", "iso_8859_7",
    "iso_8859_7_1987", "iso_ir_126"],
    "\u00A0‘’£€₯¦§\u00A8©\u037A«¬\u00AD\uFFFD―°±²³\u0384\u0385Ά·ΈΉΊ»Ό½ΎΏΐΑΒΓΔΕΖΗΘΙΚΛΜΝΞΟΠΡ\uFFFDΣΤΥ"
      ++ "ΦΧΨΩΪΫάέήίΰαβγδεζηθικλμνξοπρςστυφχψωϊϋόύώ\uFFFD"),
  (["iso8859_8", "csisolatinhebrew", "hebrew", "iso_8859_8", "iso_8859_8_1988", "iso_ir_138"],
    "\u00A0\uFFFD¢£¤¥¦§\u00A8©×«¬\u00AD®\u00AF°±²³\u00B4µ¶·\u00B8¹÷»¼½¾\uFFFD\uFFFD\uFFFD\uFFFD"
      ++ "\uFFFD\uFFFD\uFFFD\uFFFD\uFFFD\uFFFD\uFFFD\uFFFD\uFFFD\uFFFD\uFFFD\uFFFD\uFFFD\uFFFD"
      ++ "\uFFFD\uFFFD\uFFFD\uFFFD\uFFFD\uFFFD\uFFFD\uFFFD\uFFFD\uFFFD\uFFFD\uFFFD\uFFFD\uFFFD‗"
      ++ "\u05D0\u05D1\u05D2\u05D3\u05D4\u05D5\u05D6\u05D7\u05D8\u05D9\u05DA\u05DB\u05DC\u05DD"
      ++ "\u05DE\u05DF\u05E0\u05E1\u05E2\u05E3\u05E4\u05E5\u05E6\u05E7\u05E8\u05E9\u05EA\uFFFD"
      ++ "\uFFFD\u200E\u200F\uFFFD"),
  (["iso8859_9", "csisolatin5", "iso_8859_9", "iso_8859_9_1989", "iso_ir_148", "l5", "latin5"],
    "\u00A0¡¢£¤¥¦§\u00A8©ª«¬\u00AD®\u00AF°±²³\u00B4µ¶·\u00B8¹º»¼½¾¿ÀÁÂÃÄÅÆÇÈÉÊËÌÍÎÏĞÑÒÓÔÕÖ×ØÙÚÛÜİŞß"
      ++ "àáâãäåæçèéêëìíîïğñòóôõö÷øùúûüışÿ"),
  (["koi8_r", "cskoi8r"],
    "─│┌┐└┘├┤┬┴┼▀▄█▌▐░▒▓⌠■∙√≈≤≥\u00A0⌡°²·÷═║╒ё╓╔╕╖╗╘╙╚╛╜╝╞╟╠╡Ё╢╣╤╥╦╧╨╩╪╫╬©юабцдефгхийклмнопярстужвь"
      ++ "ызшэщчъЮАБЦДЕФГХИЙКЛМНОПЯРСТУЖВЬЫЗШЭЩЧЪ"),
  (["koi8_t"],
    "қғ‚Ғ„…†‡\uFFFD‰ҳ‹ҲҷҶ\uFFFDҚ‘’“”•–—\uFFFD™\uFFFD›\uFFFD\uFFFD\uFFFD\uFFFD\uFFFDӯӮё¤ӣ¦§\uFFFD"
      ++ "\uFFFD\uFFFD«¬\u00AD®\uFFFD°±²Ё\uFFFDӢ¶·\uFFFD№\uFFFD»\uFFFD\uFFFD\uFFFD©юабцдефгхийклмно"
      ++ "пярстужвьызшэщчъЮАБЦДЕФГХИЙКЛМНОПЯРСТУЖВЬЫЗШЭЩЧЪ"),
  (["koi8_u"],
    "─│┌┐└┘├┤┬┴┼▀▄█▌▐░▒▓⌠■∙√≈≤≥\u00A0⌡°²·÷═║╒ёє╔ії╗╘╙╚╛ґ╝╞╟╠╡ЁЄ╣ІЇ╦╧╨╩╪Ґ╬©юабцдефгхийклмнопярстужвь"
      ++ "ызшэщчъЮАБЦДЕФГХИЙКЛМНОПЯРСТУЖВЬЫЗШЭЩЧЪ"),
  (["kz1048", "kz_1048", "rk1048", "strk1048_2002"],
    "ЂЃ‚ѓ„…†‡€‰Љ‹ЊҚҺЏђ‘’“”•–—\uFFFD™љ›њқһџ\u00A0ҰұӘ¤Ө¦§Ё©Ғ«¬\u00AD®Ү°±Ііөµ¶·ё№ғ»әҢңүАБВГДЕЖЗИЙКЛМНО"
      ++ "ПРСТУФХЦЧШЩЪЫЬЭЮЯабвгдежзийклмнопрстуфхцчшщъыьэюя"),
  (["mac_arabic"],
    "Ä\u00A0ÇÉÑÖÜáàâä\u06BA«çéèêëí…îïñó»ôö÷úùûü\u0020!\u0022#$\u066A&'()*+\u060C-./\u0660\u0661"
      ++ "\u0662\u0663\u0664\u0665\u0666\u0667\u0668\u0669:\u061B<=>\u061F❊\u0621\u0622\u0623\u0624"
      ++ "\u0625\u0626\u0627\u0628\u0629\u062A\u062B\u062C\u062D\u062E\u062F\u0630\u0631\u0632"
      ++ "\u0633\u0634\u0635\u0636\u0637\u0638\u0639\u063A[\u005C]\u005E_\u0640\u0641\u0642\u0643"
      ++ "\u0644\u0645\u0646\u0647\u0648\u0649\u064A\u064B\u064C\u064D\u064E\u064F\u0650\u0651"
      ++ "\u0652\u067E\u0679\u0686\u06D5\u06A4\u06AF\u0688\u0691\u007B|\u007D\u0698\u06D2"),
  (["mac_croatian"],
    "ÄÅÇÉÑÖÜáàâäãåçéèêëíìîïñóòôöõúùûü†°¢£§•¶ß®Š™\u00B4\u00A8≠ŽØ∞±≤≥∆µ∂∑∏š∫ªºΩžø¿¡¬√ƒ≈Ć«Č…\u00A0ÀÃÕŒ"
      ++ "œĐ—“”‘’÷◊\uF8FF©⁄€‹›Æ»–·‚„‰ÂćÁčÈÍÎÏÌÓÔđÒÚÛÙı\u02C6\u02DC\u00AFπË\u02DA\u00B8Êæ\u02C7"),
  (["mac_cyrillic", "maccyrillic"],
    "АБВГДЕЖЗИЙКЛМНОПРСТУФХЦЧШЩЪЫЬЭЮЯ†°Ґ£§•¶І®©™Ђђ≠Ѓѓ∞±≤≥іµґЈЄєЇїЉљЊњјЅ¬√ƒ≈∆«»…\u00A0ЋћЌќѕ–—“”‘’÷„Ў"
      ++ "ўЏџ№Ёёяабвгдежзийклмнопрстуфхцчшщъыьэю€"),
  (["mac_farsi"],
    "Ä\u00A0ÇÉÑÖÜáàâä\u06BA«çéèêëí…îïñó»ôö÷úùûü\u0020!\u0022#$\u066A&'()*+\u060C-./\u06F0\u06F1"
      ++ "\u06F2\u06F3\u06F4\u06F5\u06F6\u06F7\u06F8\u06F9:\u061B<=>\u061F❊\u0621\u0622\u0623\u0624"
      ++ "\u0625\u0626\u0627\u0628\u0629\u062A\u062B\u062C\u062D\u062E\u062F\u0630\u0631\u0632"
      ++ "\u0633\u0634\u0635\u0636\u0637\u0638\u0639\u063A[\u005C]\u005E_\u0640\u0641\u0642\u0643"
      ++ "\u0644\u0645\u0646\u0647\u0648\u0649\u064A\u064B\u064C\u064D\u064E\u064F\u0650\u0651"
      ++ "\u0652\u067E\u0679\u0686\u06D5\u06A4\u06AF\u0688\u0691\u007B|\u007D\u0698\u06D2"),
  (["mac_greek", "macgreek"],
    "Ä¹²É³ÖÜ\u0385àâä\u0384\u00A8çéèêë£™îï•½‰ôö¦€ùûü†ΓΔΘΛΞΠß®©ΣΪ§≠°·Α±≤≥¥ΒΕΖΗΙΚΜΦΫΨΩάΝ¬ΟΡ≈Τ«»…"
      ++ "\u00A0ΥΧΆΈœ–―“”‘’÷ΉΊΌΎέήίόΏύαβψδεφγηιξκλμνοπώρστθωςχυζϊϋΐΰ\u00AD"),
  (["mac_iceland", "maciceland"],
    "ÄÅÇÉÑÖÜáàâäãåçéèêëíìîïñóòôöõúùûüÝ°¢£§•¶ß®©™\u00B4\u00A8≠ÆØ∞±≤≥¥µ∂∑∏π∫ªºΩæø¿¡¬√ƒ≈∆«»…\u00A0ÀÃÕŒ"
      ++ "œ–—“”‘’÷◊ÿŸ⁄€ÐðÞþý·‚„‰ÂÊÁËÈÍÎÏÌÓÔ\uF8FFÒÚÛÙı\u02C6\u02DC\u00AF\u02D8\u02D9\u02DA\u00B8"
      ++ "\u02DD\u02DB\u02C7"),
  (["mac_latin2", "mac_centeuro", "maccentraleurope", "maclatin2"],
    "ÄĀāÉĄÖÜáąČäčĆćéŹźĎíďĒēĖóėôöõúĚěü†°Ę£§•¶ß®©™ę\u00A8≠ģĮįĪ≤≥īĶ∂∑łĻļĽľĹĺŅņŃ¬√ńŇ∆«»…\u00A0ňŐÕőŌ–—“”"
      ++ "‘’÷◊ōŔŕŘ‹›řŖŗŠ‚„šŚśÁŤťÍŽžŪÓÔūŮÚůŰűŲųÝýķŻŁżĢ\u02C7"),
  (["mac_roman", "macintosh", "macroman"],
    "ÄÅÇÉÑÖÜáàâäãåçéèêëíìîïñóòôöõúùûü†°¢£§•¶ß®©™\u00B4\u00A8≠ÆØ∞±≤≥¥µ∂∑∏π∫ªºΩæø¿¡¬√ƒ≈∆«»…\u00A0ÀÃÕŒ"
      ++ "œ–—“”‘’÷◊ÿŸ⁄€‹›ﬁﬂ‡·‚„‰ÂÊÁËÈÍÎÏÌÓÔ\uF8FFÒÚÛÙı\u02C6\u02DC\u00AF\u02D8\u02D9\u02DA\u00B8"
      ++ "\u02DD\u02DB\u02C7"),
  (["mac_romanian"],
    "ÄÅÇÉÑÖÜáàâäãåçéèêëíìîïñóòôöõúùûü†°¢£§•¶ß®©™\u00B4\u00A8≠ĂȘ∞±≤≥¥µ∂∑∏π∫ªºΩăș¿¡¬√ƒ≈∆«»…\u00A0ÀÃÕŒ"
      ++ "œ–—“”‘’÷◊ÿŸ⁄€‹›Țț‡·‚„‰ÂÊÁËÈÍÎÏÌÓÔ\uF8FFÒÚÛÙı\u02C6\u02DC\u00AF\u02D8\u02D9\u02DA\u00B8"
      ++ "\u02DD\u02DB\u02C7"),
  (["mac_turkish", "macturkish"],
    "ÄÅÇÉÑÖÜáàâäãåçéèêëíìîïñóòôöõúùûü†°¢£§•¶ß®©™\u00B4\u00A8≠ÆØ∞±≤≥¥µ∂∑∏π∫ªºΩæø¿¡¬√ƒ≈∆«»…\u00A0ÀÃÕŒ"
      ++ "œ–—“”‘’÷◊ÿŸĞğİıŞş‡·‚„‰ÂÊÁËÈÍÎÏÌÓÔ\uF8FFÒÚÛÙ\uF8A0\u02C6\u02DC\u00AF\u02D8\u02D9\u02DA"
      ++ "\u00B8\u02DD\u02DB\u02C7"),
  (["palmos"],
    "€\u0081‚ƒ„…†‡\u02C6‰Š‹Œ♦♣♥♠‘’“”•–—\u02DC™š\u009Bœ\u009D\u009EŸ\u00A0¡¢£¤¥¦§\u00A8©ª«¬\u00AD®"
      ++ "\u00AF°±²³\u00B4µ¶·\u00B8¹º»¼½¾¿ÀÁÂÃÄÅÆÇÈÉÊËÌÍÎÏÐÑÒÓÔÕÖ×ØÙÚÛÜÝÞßàáâãäåæçèéêëìíîïðñòóôõö÷ø"
      ++ "ùúûüýþÿ"),
  (["ptcp154", "cp154", "csptcp154", "cyrillic_asian", "pt154"],
    "ҖҒӮғ„…ҶҮҲүҠӢҢҚҺҸҗ‘’“”•–—ҳҷҡӣңқһҹ\u00A0ЎўЈӨҘҰ§Ё©Ә«¬ӯ®Ҝ°ұІіҙө¶·ё№ә»јҪҫҝАБВГДЕЖЗИЙКЛМНОПРСТУФХЦЧШ"
      ++ "ЩЪЫЬЭЮЯабвгдежзийклмнопрстуфхцчшщъыьэюя"),
  (["tis_620", "iso_ir_166", "tis620", "tis_620_0", "tis_620_2529_0", "tis_620_2529_1"],
    "\uFFFD\u0E01\u0E02\u0E03\u0E04\u0E05\u0E06\u0E07\u0E08\u0E09\u0E0A\u0E0B\u0E0C\u0E0D\u0E0E"
      ++ "\u0E0F\u0E10\u0E11\u0E12\u0E13\u0E14\u0E15\u0E16\u0E17\u0E18\u0E19\u0E1A\u0E1B\u0E1C"
      ++ "\u0E1D\u0E1E\u0E1F\u0E20\u0E21\u0E22\u0E23\u0E24\u0E25\u0E26\u0E27\u0E28\u0E29\u0E2A"
      ++ "\u0E2B\u0E2C\u0E2D\u0E2E\u0E2F\u0E30\u0E31\u0E32\u0E33\u0E34\u0E35\u0E36\u0E37\u0E38"
      ++ "\u0E39\u0E3A\uFFFD\uFFFD\uFFFD\uFFFD\u0E3F\u0E40\u0E41\u0E42\u0E43\u0E44\u0E45\u0E46"
      ++ "\u0E47\u0E48\u0E49\u0E4A\u0E4B\u0E4C\u0E4D\u0E4E\u0E4F\u0E50\u0E51\u0E52\u0E53\u0E54"
      ++ "\u0E55\u0E56\u0E57\u0E58\u0E59\u0E5A\u0E5B\uFFFD\uFFFD\uFFFD\uFFFD")]

def codePage? (name : String) : Option String :=
  (codePages.find? fun (names, _) => names.contains name).map (·.2)

def pageChar (page : String) (byte : UInt8) : Char :=
  let first := 256 - page.length
  if byte.toNat < first then Char.ofNat byte.toNat
  else page.toList.getD (byte.toNat - first) '\uFFFD'

end Flowplan.Text
