/-!
# Alphabets apart from ASCII

Character sets in which every byte is a character and the lower half is not ASCII. Each is given by
all of its characters, with U+FFFD where there is none.
-/

namespace AgentBundles.Charset

private def cp037Rows : List String :=
  ["\x00\x01\x02\x03\u009c\x09\u0086\x7f\u0097\u008d\u008e\x0b\x0c\x0d\x0e\x0f\x10\x11\x12\x13\u009d",
   "\u0085\x08\u0087\x18\x19\u0092\u008f\x1c\x1d\x1e\x1f\u0080\u0081\u0082\u0083\u0084\x0a\x17\x1b",
   "\u0088\u0089\u008a\u008b\u008c\x05\x06\x07\u0090\u0091\x16\u0093\u0094\u0095\u0096\x04\u0098\u0099",
   "\u009a\u009b\x14\x15\u009e\x1a \u00a0âäàáãåçñ¢.<(+|&éêëèíîïìß",
   "!$*);¬-/ÂÄÀÁÃÅÇÑ¦,%_>?øÉÊËÈÍÎÏÌ\x60",
   ":#@'=\"Øabcdefghi«»ðýþ±°jklmnopqr",
   "ªºæ¸Æ¤µ~stuvwxyz¡¿ÐÝÞ®^£¥·©§¶¼½¾",
   "[]¯¨´×\x7bABCDEFGHI\u00adôöòóõ\x7dJKLMNOPQR",
   "¹ûüùúÿ\\÷STUVWXYZ²ÔÖÒÓÕ0123456789",
   "³ÛÜÙÚ\u009f"]

private def cp1026Rows : List String :=
  ["\x00\x01\x02\x03\u009c\x09\u0086\x7f\u0097\u008d\u008e\x0b\x0c\x0d\x0e\x0f\x10\x11\x12\x13\u009d",
   "\u0085\x08\u0087\x18\x19\u0092\u008f\x1c\x1d\x1e\x1f\u0080\u0081\u0082\u0083\u0084\x0a\x17\x1b",
   "\u0088\u0089\u008a\u008b\u008c\x05\x06\x07\u0090\u0091\x16\u0093\u0094\u0095\u0096\x04\u0098\u0099",
   "\u009a\u009b\x14\x15\u009e\x1a \u00a0âäàáãå\x7bñÇ.<(+!&éêëèíîïìß",
   "Ğİ*);^-/ÂÄÀÁÃÅ[Ñş,%_>?øÉÊËÈÍÎÏÌı",
   ":ÖŞ'=ÜØabcdefghi«»\x7d\x60¦±°jklmnopqr",
   "ªºæ¸Æ¤µöstuvwxyz¡¿]$@®¢£¥·©§¶¼½¾",
   "¬|¯¨´×çABCDEFGHI\u00adô~òóõğJKLMNOPQR",
   "¹û\\ùúÿü÷STUVWXYZ²Ô#ÒÓÕ0123456789",
   "³Û\"ÙÚ\u009f"]

private def cp1140Rows : List String :=
  ["\x00\x01\x02\x03\u009c\x09\u0086\x7f\u0097\u008d\u008e\x0b\x0c\x0d\x0e\x0f\x10\x11\x12\x13\u009d",
   "\u0085\x08\u0087\x18\x19\u0092\u008f\x1c\x1d\x1e\x1f\u0080\u0081\u0082\u0083\u0084\x0a\x17\x1b",
   "\u0088\u0089\u008a\u008b\u008c\x05\x06\x07\u0090\u0091\x16\u0093\u0094\u0095\u0096\x04\u0098\u0099",
   "\u009a\u009b\x14\x15\u009e\x1a \u00a0âäàáãåçñ¢.<(+|&éêëèíîïìß",
   "!$*);¬-/ÂÄÀÁÃÅÇÑ¦,%_>?øÉÊËÈÍÎÏÌ\x60",
   ":#@'=\"Øabcdefghi«»ðýþ±°jklmnopqr",
   "ªºæ¸Æ€µ~stuvwxyz¡¿ÐÝÞ®^£¥·©§¶¼½¾",
   "[]¯¨´×\x7bABCDEFGHI\u00adôöòóõ\x7dJKLMNOPQR",
   "¹ûüùúÿ\\÷STUVWXYZ²ÔÖÒÓÕ0123456789",
   "³ÛÜÙÚ\u009f"]

private def cp273Rows : List String :=
  ["\x00\x01\x02\x03\u009c\x09\u0086\x7f\u0097\u008d\u008e\x0b\x0c\x0d\x0e\x0f\x10\x11\x12\x13\u009d",
   "\u0085\x08\u0087\x18\x19\u0092\u008f\x1c\x1d\x1e\x1f\u0080\u0081\u0082\u0083\u0084\x0a\x17\x1b",
   "\u0088\u0089\u008a\u008b\u008c\x05\x06\x07\u0090\u0091\x16\u0093\u0094\u0095\u0096\x04\u0098\u0099",
   "\u009a\u009b\x14\x15\u009e\x1a \u00a0â\x7bàáãåçñÄ.<(+!&éêëèíîïì~",
   "Ü$*);^-/Â[ÀÁÃÅÇÑö,%_>?øÉÊËÈÍÎÏÌ\x60",
   ":#§'=\"Øabcdefghi«»ðýþ±°jklmnopqr",
   "ªºæ¸Æ¤µßstuvwxyz¡¿ÐÝÞ®¢£¥·©@¶¼½¾",
   "¬|‾¨´×äABCDEFGHI\u00adô¦òóõüJKLMNOPQR",
   "¹û\x7dùúÿÖ÷STUVWXYZ²Ô\\ÒÓÕ0123456789",
   "³Û]ÙÚ\u009f"]

private def cp424Rows : List String :=
  ["\x00\x01\x02\x03\u009c\x09\u0086\x7f\u0097\u008d\u008e\x0b\x0c\x0d\x0e\x0f\x10\x11\x12\x13\u009d",
   "\u0085\x08\u0087\x18\x19\u0092\u008f\x1c\x1d\x1e\x1f\u0080\u0081\u0082\u0083\u0084\x0a\x17\x1b",
   "\u0088\u0089\u008a\u008b\u008c\x05\x06\x07\u0090\u0091\x16\u0093\u0094\u0095\u0096\x04\u0098\u0099",
   "\u009a\u009b\x14\x15\u009e\x1a \u05d0\u05d1\u05d2\u05d3\u05d4\u05d5\u05d6\u05d7\u05d8¢.<(+|&\u05d9",
   "\u05da\u05db\u05dc\u05dd\u05de\u05df\u05e0\u05e1!$*);¬-/\u05e2\u05e3\u05e4\u05e5\u05e6\u05e7\u05e8",
   "\u05e9¦,%_>?\ufffd\u05ea\ufffd\ufffd\u00a0\ufffd\ufffd\ufffd‗\x60:#@'=\"\ufffdabcdefgh",
   "i«»\ufffd\ufffd\ufffd±°jklmnopqr\ufffd\ufffd\ufffd¸\ufffd¤µ~stuvwxy",
   "z\ufffd\ufffd\ufffd\ufffd\ufffd®^£¥·©§¶¼½¾[]¯¨´×\x7bABCDEFGH",
   "I\u00ad\ufffd\ufffd\ufffd\ufffd\ufffd\x7dJKLMNOPQR¹\ufffd\ufffd\ufffd\ufffd\ufffd\\÷STUVWXY",
   "Z²\ufffd\ufffd\ufffd\ufffd\ufffd0123456789³\ufffd\ufffd\ufffd\ufffd\u009f"]

private def cp500Rows : List String :=
  ["\x00\x01\x02\x03\u009c\x09\u0086\x7f\u0097\u008d\u008e\x0b\x0c\x0d\x0e\x0f\x10\x11\x12\x13\u009d",
   "\u0085\x08\u0087\x18\x19\u0092\u008f\x1c\x1d\x1e\x1f\u0080\u0081\u0082\u0083\u0084\x0a\x17\x1b",
   "\u0088\u0089\u008a\u008b\u008c\x05\x06\x07\u0090\u0091\x16\u0093\u0094\u0095\u0096\x04\u0098\u0099",
   "\u009a\u009b\x14\x15\u009e\x1a \u00a0âäàáãåçñ[.<(+!&éêëèíîïìß",
   "]$*);^-/ÂÄÀÁÃÅÇÑ¦,%_>?øÉÊËÈÍÎÏÌ\x60",
   ":#@'=\"Øabcdefghi«»ðýþ±°jklmnopqr",
   "ªºæ¸Æ¤µ~stuvwxyz¡¿ÐÝÞ®¢£¥·©§¶¼½¾",
   "¬|¯¨´×\x7bABCDEFGHI\u00adôöòóõ\x7dJKLMNOPQR",
   "¹ûüùúÿ\\÷STUVWXYZ²ÔÖÒÓÕ0123456789",
   "³ÛÜÙÚ\u009f"]

private def cp864Rows : List String :=
  ["\x00\x01\x02\x03\x04\x05\x06\x07\x08\x09\x0a\x0b\x0c\x0d\x0e\x0f\x10\x11\x12\x13\x14\x15\x16\x17",
   "\x18\x19\x1a\x1b\x1c\x1d\x1e\x1f !\"#$٪&'()*+,-./01234567",
   "89:;<=>?@ABCDEFGHIJKLMNOPQRSTUVW",
   "XYZ[\\]^_\x60abcdefghijklmnopqrstuvw",
   "xyz\x7b|\x7d~\x7f°·∙√▒─│┼┤┬├┴┐┌└┘β∞φ±½¼≈«",
   "»\ufef7\ufef8\ufffd\ufffd\ufefb\ufefc\ufffd\u00a0\u00ad\ufe82£¤\ufe84\ufffd\ufffd\ufe8e\ufe8f",
   "\ufe95\ufe99،\ufe9d\ufea1\ufea5\u0660\u0661\u0662\u0663\u0664\u0665\u0666\u0667\u0668\u0669\ufed1",
   "\u061b\ufeb1\ufeb5\ufeb9\u061f¢\ufe80\ufe81\ufe83\ufe85\ufeca\ufe8b\ufe8d\ufe91\ufe93\ufe97\ufe9b",
   "\ufe9f\ufea3\ufea7\ufea9\ufeab\ufead\ufeaf\ufeb3\ufeb7\ufebb\ufebf\ufec1\ufec5\ufecb\ufecf¦¬÷×",
   "\ufec9\u0640\ufed3\ufed7\ufedb\ufedf\ufee3\ufee7\ufeeb\ufeed\ufeef\ufef3\ufebd\ufecc\ufece\ufecd",
   "\ufee1\ufe7d\u0651\ufee5\ufee9\ufeec\ufef0\ufef2\ufed0\ufed5\ufef5\ufef6\ufedd\ufed9\ufef1■\ufffd"]

private def cp875Rows : List String :=
  ["\x00\x01\x02\x03\u009c\x09\u0086\x7f\u0097\u008d\u008e\x0b\x0c\x0d\x0e\x0f\x10\x11\x12\x13\u009d",
   "\u0085\x08\u0087\x18\x19\u0092\u008f\x1c\x1d\x1e\x1f\u0080\u0081\u0082\u0083\u0084\x0a\x17\x1b",
   "\u0088\u0089\u008a\u008b\u008c\x05\x06\x07\u0090\u0091\x16\u0093\u0094\u0095\u0096\x04\u0098\u0099",
   "\u009a\u009b\x14\x15\u009e\x1a ΑΒΓΔΕΖΗΘΙ[.<(+!&ΚΛΜΝΞΟΠΡΣ",
   "]$*);^-/ΤΥΦΧΨΩΪΫ|,%_>?¨ΆΈΉ\u00a0ΊΌΎΏ\x60",
   ":#@'=\"΅abcdefghiαβγδεζ°jklmnopqr",
   "ηθικλμ´~stuvwxyzνξοπρσ£άέήϊίόύϋώ",
   "ςτυφχψ\x7bABCDEFGHI\u00adωΐΰ‘―\x7dJKLMNOPQR",
   "±½\x1a·’¦\\\x1aSTUVWXYZ²§\x1a\x1a«¬0123456789",
   "³©\x1a\x1a»\u009f"]

/-- The characters of the character sets, by name. -/
def wholeAlphabets : List (String × List String) :=
  [("cp037", cp037Rows),
   ("cp1026", cp1026Rows),
   ("cp1140", cp1140Rows),
   ("cp273", cp273Rows),
   ("cp424", cp424Rows),
   ("cp500", cp500Rows),
   ("cp864", cp864Rows),
   ("cp875", cp875Rows)]

end AgentBundles.Charset
