/-!
# The pages of mainframes

The pages of mainframes arrange all their characters in an order of their own.
Every page lists the characters of its last codes; a replacement character fills a code without one.

## Main definitions

* `ClientGen.Charset.Page.ebcdic037`, `ClientGen.Charset.Page.ebcdic273`,
  `ClientGen.Charset.Page.ebcdic424`, `ClientGen.Charset.Page.ebcdic500`,
  `ClientGen.Charset.Page.ebcdic875`, `ClientGen.Charset.Page.ebcdic1026`,
  `ClientGen.Charset.Page.ebcdic1140` : the pages.
-/

namespace ClientGen.Charset.Page

/-- Page 037: English. -/
def ebcdic037 : String :=
  "\u009c\x09\u0086\x7f\u0097\u008d\u008e\x0b\x0c\x0d\x0e\x0f\x10\x11\x12\x13\u009d\u0085" ++
  "\x08\u0087\x18\x19\u0092\u008f\x1c\x1d\x1e\x1f\u0080\u0081\u0082\u0083\u0084\x0a\x17\x1b" ++
  "\u0088\u0089\u008a\u008b\u008c\x05\x06\x07\u0090\u0091\x16\u0093\u0094\u0095\u0096\x04" ++
  "\u0098\u0099\u009a\u009b\x14\x15\u009e\x1a \u00a0âäàáãåçñ¢.<(+|&éêëèíîï" ++
  "ìß!$*);¬-/ÂÄÀÁÃÅÇÑ¦,%_>?øÉÊËÈÍÎÏ" ++
  "Ì\x60:#@'=\"Øabcdefghi«»ðýþ±°jklmnop" ++
  "qrªºæ¸Æ¤µ~stuvwxyz¡¿ÐÝÞ®^£¥·©§¶¼" ++
  "½¾[]¯¨´×\x7bABCDEFGHI\u00adôöòóõ\x7dJKLMNOP" ++
  "QR¹ûüùúÿ\\÷STUVWXYZ²ÔÖÒÓÕ01234567" ++
  "89³ÛÜÙÚ\u009f"

/-- Page 273: German. -/
def ebcdic273 : String :=
  "\u009c\x09\u0086\x7f\u0097\u008d\u008e\x0b\x0c\x0d\x0e\x0f\x10\x11\x12\x13\u009d\u0085" ++
  "\x08\u0087\x18\x19\u0092\u008f\x1c\x1d\x1e\x1f\u0080\u0081\u0082\u0083\u0084\x0a\x17\x1b" ++
  "\u0088\u0089\u008a\u008b\u008c\x05\x06\x07\u0090\u0091\x16\u0093\u0094\u0095\u0096\x04" ++
  "\u0098\u0099\u009a\u009b\x14\x15\u009e\x1a \u00a0â\x7bàáãåçñÄ.<(+!&éêëèíîï" ++
  "ì~Ü$*);^-/Â[ÀÁÃÅÇÑö,%_>?øÉÊËÈÍÎÏ" ++
  "Ì\x60:#§'=\"Øabcdefghi«»ðýþ±°jklmnop" ++
  "qrªºæ¸Æ¤µßstuvwxyz¡¿ÐÝÞ®¢£¥·©@¶¼" ++
  "½¾¬|‾¨´×äABCDEFGHI\u00adô¦òóõüJKLMNOP" ++
  "QR¹û\x7dùúÿÖ÷STUVWXYZ²Ô\\ÒÓÕ01234567" ++
  "89³Û]ÙÚ\u009f"

/-- Page 424: Hebrew. -/
def ebcdic424 : String :=
  "\u009c\x09\u0086\x7f\u0097\u008d\u008e\x0b\x0c\x0d\x0e\x0f\x10\x11\x12\x13\u009d\u0085" ++
  "\x08\u0087\x18\x19\u0092\u008f\x1c\x1d\x1e\x1f\u0080\u0081\u0082\u0083\u0084\x0a\x17\x1b" ++
  "\u0088\u0089\u008a\u008b\u008c\x05\x06\x07\u0090\u0091\x16\u0093\u0094\u0095\u0096\x04" ++
  "\u0098\u0099\u009a\u009b\x14\x15\u009e\x1a \u05d0\u05d1\u05d2\u05d3\u05d4\u05d5\u05d6" ++
  "\u05d7\u05d8¢.<(+|&\u05d9\u05da\u05db\u05dc\u05dd\u05de\u05df\u05e0\u05e1!$*);¬-/\u05e2" ++
  "\u05e3\u05e4\u05e5\u05e6\u05e7\u05e8\u05e9¦,%_>?�\u05ea��\u00a0���‗\x60:#@'=\"�ab" ++
  "cdefghi«»���±°jklmnopqr���¸�¤µ~s" ++
  "tuvwxyz�����®^£¥·©§¶¼½¾[]¯¨´×\x7bAB" ++
  "CDEFGHI\u00ad�����\x7dJKLMNOPQR¹�����\\÷S" ++
  "TUVWXYZ²�����0123456789³����\u009f"

/-- Page 500: Western Europe. -/
def ebcdic500 : String :=
  "\u009c\x09\u0086\x7f\u0097\u008d\u008e\x0b\x0c\x0d\x0e\x0f\x10\x11\x12\x13\u009d\u0085" ++
  "\x08\u0087\x18\x19\u0092\u008f\x1c\x1d\x1e\x1f\u0080\u0081\u0082\u0083\u0084\x0a\x17\x1b" ++
  "\u0088\u0089\u008a\u008b\u008c\x05\x06\x07\u0090\u0091\x16\u0093\u0094\u0095\u0096\x04" ++
  "\u0098\u0099\u009a\u009b\x14\x15\u009e\x1a \u00a0âäàáãåçñ[.<(+!&éêëèíîï" ++
  "ìß]$*);^-/ÂÄÀÁÃÅÇÑ¦,%_>?øÉÊËÈÍÎÏ" ++
  "Ì\x60:#@'=\"Øabcdefghi«»ðýþ±°jklmnop" ++
  "qrªºæ¸Æ¤µ~stuvwxyz¡¿ÐÝÞ®¢£¥·©§¶¼" ++
  "½¾¬|¯¨´×\x7bABCDEFGHI\u00adôöòóõ\x7dJKLMNOP" ++
  "QR¹ûüùúÿ\\÷STUVWXYZ²ÔÖÒÓÕ01234567" ++
  "89³ÛÜÙÚ\u009f"

/-- Page 875: Greek. -/
def ebcdic875 : String :=
  "\u009c\x09\u0086\x7f\u0097\u008d\u008e\x0b\x0c\x0d\x0e\x0f\x10\x11\x12\x13\u009d\u0085" ++
  "\x08\u0087\x18\x19\u0092\u008f\x1c\x1d\x1e\x1f\u0080\u0081\u0082\u0083\u0084\x0a\x17\x1b" ++
  "\u0088\u0089\u008a\u008b\u008c\x05\x06\x07\u0090\u0091\x16\u0093\u0094\u0095\u0096\x04" ++
  "\u0098\u0099\u009a\u009b\x14\x15\u009e\x1a ΑΒΓΔΕΖΗΘΙ[.<(+!&ΚΛΜΝΞΟΠ" ++
  "ΡΣ]$*);^-/ΤΥΦΧΨΩΪΫ|,%_>?¨ΆΈΉ\u00a0ΊΌΎ" ++
  "Ώ\x60:#@'=\"΅abcdefghiαβγδεζ°jklmnop" ++
  "qrηθικλμ´~stuvwxyzνξοπρσ£άέήϊίόύ" ++
  "ϋώςτυφχψ\x7bABCDEFGHI\u00adωΐΰ‘―\x7dJKLMNOP" ++
  "QR±½\x1a\u0387’¦\\\x1aSTUVWXYZ²§\x1a\x1a«¬01234567" ++
  "89³©\x1a\x1a»\u009f"

/-- Page 1026: Turkish. -/
def ebcdic1026 : String :=
  "\u009c\x09\u0086\x7f\u0097\u008d\u008e\x0b\x0c\x0d\x0e\x0f\x10\x11\x12\x13\u009d\u0085" ++
  "\x08\u0087\x18\x19\u0092\u008f\x1c\x1d\x1e\x1f\u0080\u0081\u0082\u0083\u0084\x0a\x17\x1b" ++
  "\u0088\u0089\u008a\u008b\u008c\x05\x06\x07\u0090\u0091\x16\u0093\u0094\u0095\u0096\x04" ++
  "\u0098\u0099\u009a\u009b\x14\x15\u009e\x1a \u00a0âäàáãå\x7bñÇ.<(+!&éêëèíîï" ++
  "ìßĞİ*);^-/ÂÄÀÁÃÅ[Ñş,%_>?øÉÊËÈÍÎÏ" ++
  "Ìı:ÖŞ'=ÜØabcdefghi«»\x7d\x60¦±°jklmnop" ++
  "qrªºæ¸Æ¤µöstuvwxyz¡¿]$@®¢£¥·©§¶¼" ++
  "½¾¬|¯¨´×çABCDEFGHI\u00adô~òóõğJKLMNOP" ++
  "QR¹û\\ùúÿü÷STUVWXYZ²Ô#ÒÓÕ01234567" ++
  "89³Û\"ÙÚ\u009f"

/-- Page 1140: English with the sign of the euro. -/
def ebcdic1140 : String :=
  "\u009c\x09\u0086\x7f\u0097\u008d\u008e\x0b\x0c\x0d\x0e\x0f\x10\x11\x12\x13\u009d\u0085" ++
  "\x08\u0087\x18\x19\u0092\u008f\x1c\x1d\x1e\x1f\u0080\u0081\u0082\u0083\u0084\x0a\x17\x1b" ++
  "\u0088\u0089\u008a\u008b\u008c\x05\x06\x07\u0090\u0091\x16\u0093\u0094\u0095\u0096\x04" ++
  "\u0098\u0099\u009a\u009b\x14\x15\u009e\x1a \u00a0âäàáãåçñ¢.<(+|&éêëèíîï" ++
  "ìß!$*);¬-/ÂÄÀÁÃÅÇÑ¦,%_>?øÉÊËÈÍÎÏ" ++
  "Ì\x60:#@'=\"Øabcdefghi«»ðýþ±°jklmnop" ++
  "qrªºæ¸Æ€µ~stuvwxyz¡¿ÐÝÞ®^£¥·©§¶¼" ++
  "½¾[]¯¨´×\x7bABCDEFGHI\u00adôöòóõ\x7dJKLMNOP" ++
  "QR¹ûüùúÿ\\÷STUVWXYZ²ÔÖÒÓÕ01234567" ++
  "89³ÛÜÙÚ\u009f"

end ClientGen.Charset.Page
