/-!
# Other pages

These pages of single languages and makers have the characters of ASCII first.
Every page lists the characters of its last codes; a replacement character fills a code without one.

## Main definitions

* `ClientGen.Charset.Page.koi8R`, `ClientGen.Charset.Page.koi8T`, `ClientGen.Charset.Page.koi8U`,
  `ClientGen.Charset.Page.kazakh`, `ClientGen.Charset.Page.asianCyrillic`,
  `ClientGen.Charset.Page.thai`, `ClientGen.Charset.Page.roman8`, `ClientGen.Charset.Page.palm`,
  `ClientGen.Charset.Page.urdu` : the pages.
-/

namespace ClientGen.Charset.Page

/-- Russian. -/
def koi8R : String :=
  "─│┌┐└┘├┤┬┴┼▀▄█▌▐░▒▓⌠■∙√≈≤≥\u00a0⌡°²·÷" ++
  "═║╒ё╓╔╕╖╗╘╙╚╛╜╝╞╟╠╡Ё╢╣╤╥╦╧╨╩╪╫╬©" ++
  "юабцдефгхийклмнопярстужвьызшэщчъ" ++
  "ЮАБЦДЕФГХИЙКЛМНОПЯРСТУЖВЬЫЗШЭЩЧЪ"

/-- Tajik. -/
def koi8T : String :=
  "қғ‚Ғ„…†‡�‰ҳ‹ҲҷҶ�Қ‘’“”•–—�™�›����" ++
  "�ӯӮё¤ӣ¦§���«¬\u00ad®�°±²Ё�Ӣ¶·�№�»���©" ++
  "юабцдефгхийклмнопярстужвьызшэщчъ" ++
  "ЮАБЦДЕФГХИЙКЛМНОПЯРСТУЖВЬЫЗШЭЩЧЪ"

/-- Ukrainian. -/
def koi8U : String :=
  "─│┌┐└┘├┤┬┴┼▀▄█▌▐░▒▓⌠■∙√≈≤≥\u00a0⌡°²·÷" ++
  "═║╒ёє╔ії╗╘╙╚╛ґ╝╞╟╠╡ЁЄ╣ІЇ╦╧╨╩╪Ґ╬©" ++
  "юабцдефгхийклмнопярстужвьызшэщчъ" ++
  "ЮАБЦДЕФГХИЙКЛМНОПЯРСТУЖВЬЫЗШЭЩЧЪ"

/-- Kazakh. -/
def kazakh : String :=
  "ЂЃ‚ѓ„…†‡€‰Љ‹ЊҚҺЏђ‘’“”•–—�™љ›њқһџ" ++
  "\u00a0ҰұӘ¤Ө¦§Ё©Ғ«¬\u00ad®Ү°±Ііөµ¶·ё№ғ»әҢңү" ++
  "АБВГДЕЖЗИЙКЛМНОПРСТУФХЦЧШЩЪЫЬЭЮЯ" ++
  "абвгдежзийклмнопрстуфхцчшщъыьэюя"

/-- The Cyrillic letters of Asia. -/
def asianCyrillic : String :=
  "ҖҒӮғ„…ҶҮҲүҠӢҢҚҺҸҗ‘’“”•–—ҳҷҡӣңқһҹ" ++
  "\u00a0ЎўЈӨҘҰ§Ё©Ә«¬ӯ®Ҝ°ұІіҙө¶·ё№ә»јҪҫҝ" ++
  "АБВГДЕЖЗИЙКЛМНОПРСТУФХЦЧШЩЪЫЬЭЮЯ" ++
  "абвгдежзийклмнопрстуфхцчшщъыьэюя"

/-- Thai. -/
def thai : String :=
  "�กขฃคฅฆงจฉชซฌญฎฏฐฑฒณดตถทธนบปผฝพฟ" ++
  "ภมยรฤลฦวศษสหฬอฮฯะ\u0e31าำ\u0e34\u0e35\u0e36\u0e37\u0e38\u0e39\u0e3a����฿" ++
  "เแโใไๅๆ\u0e47\u0e48\u0e49\u0e4a\u0e4b\u0e4c\u0e4d\u0e4e๏๐๑๒๓๔๕๖๗๘๙๚๛����"

/-- Western Europe, as printers have it. -/
def roman8 : String :=
  "ÀÂÈÊËÎÏ´ˋˆ¨˜ÙÛ₤¯Ýý°ÇçÑñ¡¿¤£¥§ƒ¢â" ++
  "êôûáéóúàèòùäëöüÅîØÆåíøæÄìÖÜÉïßÔÁ" ++
  "ÃãÐðÍÌÓÒÕõŠšÚŸÿÞþ·µ¶¾—¼½ªº«■»±�"

/-- Western Europe, as handheld devices have it. -/
def palm : String :=
  "€\u0081‚ƒ„…†‡ˆ‰Š‹Œ♦♣♥♠‘’“”•–—˜™š\u009bœ\u009d\u009eŸ" ++
  "\u00a0¡¢£¤¥¦§¨©ª«¬\u00ad®¯°±²³´µ¶·¸¹º»¼½¾¿" ++
  "ÀÁÂÃÄÅÆÇÈÉÊËÌÍÎÏÐÑÒÓÔÕÖ×ØÙÚÛÜÝÞß" ++
  "àáâãäåæçèéêëìíîïðñòóôõö÷øùúûüýþÿ"

/-- Urdu. -/
def urdu : String :=
  "۰۱۲۳۴۵۶۷۸۹،\u061b\u00ad\u061f\ufe81\ufe8d\ufe8e\ufe8e\ufe8f\ufe91\ufb56\ufb58\ufe93" ++
  "\ufe95\ufe97\ufb66\ufb68\ufe99\ufe9b\ufe9d\ufe9f\ufb7a\ufb7c\ufea1\ufea3\ufea5\ufea7" ++
  "\ufea9\ufb84\ufeab\ufead\ufb8c\ufeaf\ufb8a\ufeb1\ufeb3\ufeb5\ufeb7\ufeb9\ufebb\ufebd" ++
  "\ufebf\ufec1\ufec5\ufec9\ufeca\ufecb\ufecc\ufecd\ufece\ufecf\ufed0\ufed1\ufed3\ufed5" ++
  "\ufed7\ufed9\ufedb\ufb92\ufb94\ufedd\ufedf\ufee0\ufee1\ufee3\ufb9e\ufee5\ufee7\ufe85" ++
  "\ufeed\ufba6\ufba8\ufba9\ufbaa\ufe80\ufe89\ufe8a\ufe8b\ufef1\ufef2\ufef3\ufbb0\ufbae" ++
  "\ufe7c\ufe7d"

end ClientGen.Charset.Page
