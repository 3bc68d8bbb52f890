import RequestChain.Charset.Grid.Jis208
import RequestChain.Charset.Grid.Jis212
import RequestChain.Charset.Wide

namespace RequestChain.Charset

def halfKatakana? (byte : Nat) : Option Char :=
  if 0xA1 ≤ byte ∧ byte ≤ 0xDF then some (Char.ofNat (0xFEC0 + byte)) else none

/-- The character of a byte below 0x80 where ASCII has the yen sign and the overline. -/
def romanChar? (byte : Nat) : Option Char :=
  if byte = 0x5C then some '¥'
  else if byte = 0x7E then some '‾'
  else if byte < 0x80 then some (Char.ofNat byte)
  else none

namespace Shifted

def rows? (lead : Nat) : Option Nat :=
  if 0x81 ≤ lead ∧ lead ≤ 0x9F then some (lead - 0x81)
  else if 0xE0 ≤ lead ∧ lead ≤ 0xFC then some (lead - 0xC1)
  else none

def column? (trail : Nat) : Option Nat :=
  if 0x40 ≤ trail ∧ trail ≤ 0x7E then some (trail - 0x40)
  else if 0x80 ≤ trail ∧ trail ≤ 0xFC then some (trail - 0x41)
  else none

def cell? (lead trail : Nat) : Option (Nat × Nat) := do
  let rows ← rows? lead
  let column ← column? trail
  return (rows * 2 + column / 94, column % 94)

end Shifted

/-- The rows of the grid are moved so that the katakana of half width can keep their single bytes.
-/
def shiftJis : Paired where
  single? byte := (Paired.ascii? byte).or (halfKatakana? byte)
  isLead byte := (Shifted.rows? byte).isSome
  pair? lead trail := (Shifted.cell? lead trail).bind fun (row, column) =>
    Grid.jis208.char? row column

namespace Windows932

def addedRows : List (Nat × String) := [
  (12,
    "①②③④⑤⑥⑦⑧⑨⑩⑪⑫⑬⑭⑮⑯⑰⑱⑲⑳ⅠⅡⅢⅣⅤⅥⅦⅧⅨⅩ�㍉㌔㌢㍍㌘㌧㌃㌶㍑㍗㌍㌦㌣㌫㍊㌻㎜㎝㎞㎎㎏㏄㎡��������㍻〝〟№㏍℡㊤㊥㊦㊧㊨㈱㈲㈹㍾㍽㍼≒≡∫∮∑√⊥∠∟⊿∵∩∪"),
  (88,
    "纊褜鍈銈蓜俉炻昱棈鋹曻彅丨仡仼伀伃伹佖侒侊侚侔俍偀倢俿倞偆偰偂傔僴僘兊兤冝冾凬刕劜劦勀勛匀匇匤卲厓厲叝﨎咜咊咩哿喆坙坥垬埈埇﨏塚增墲夋奓奛奝奣妤妺孖寀甯寘寬尞岦岺峵崧嵓﨑嵂嵭嶸嶹巐弡弴彧德"),
  (89,
    "忞恝悅悊惞惕愠惲愑愷愰憘戓抦揵摠撝擎敎昀昕昻昉昮昞昤晥晗晙晴晳暙暠暲暿曺朎朗杦枻桒柀栁桄棏﨓楨﨔榘槢樰橫橆橳橾櫢櫤毖氿汜沆汯泚洄涇浯涖涬淏淸淲淼渹湜渧渼溿澈澵濵瀅瀇瀨炅炫焏焄煜煆煇凞燁燾犱"),
  (90,
    "犾猤猪獷玽珉珖珣珒琇珵琦琪琩琮瑢璉璟甁畯皂皜皞皛皦益睆劯砡硎硤硺礰礼神祥禔福禛竑竧靖竫箞精絈絜綷綠緖繒罇羡羽茁荢荿菇菶葈蒴蕓蕙蕫﨟薰蘒﨡蠇裵訒訷詹誧誾諟諸諶譓譿賰賴贒赶﨣軏﨤逸遧郞都鄕鄧釚"),
  (91,
    "釗釞釭釮釤釥鈆鈐鈊鈺鉀鈼鉎鉙鉑鈹鉧銧鉷鉸鋧鋗鋙鋐﨧鋕鋠鋓錥錡鋻﨨錞鋿錝錂鍰鍗鎤鏆鏞鏸鐱鑅鑈閒隆﨩隝隯霳霻靃靍靏靑靕顗顥飯飼餧館馞驎髙髜魵魲鮏鮱鮻鰀鵰鵫鶴鸙黑��ⅰⅱⅲⅳⅴⅵⅶⅷⅸⅹ￢￤＇＂"),
  (114,
    "ⅰⅱⅲⅳⅴⅵⅶⅷⅸⅹⅠⅡⅢⅣⅤⅥⅦⅧⅨⅩ￢￤＇＂㈱№℡∵纊褜鍈銈蓜俉炻昱棈鋹曻彅丨仡仼伀伃伹佖侒侊侚侔俍偀倢俿倞偆偰偂傔僴僘兊兤冝冾凬刕劜劦勀勛匀匇匤卲厓厲叝﨎咜咊咩哿喆坙坥垬埈埇﨏塚增墲"),
  (115,
    "夋奓奛奝奣妤妺孖寀甯寘寬尞岦岺峵崧嵓﨑嵂嵭嶸嶹巐弡弴彧德忞恝悅悊惞惕愠惲愑愷愰憘戓抦揵摠撝擎敎昀昕昻昉昮昞昤晥晗晙晴晳暙暠暲暿曺朎朗杦枻桒柀栁桄棏﨓楨﨔榘槢樰橫橆橳橾櫢櫤毖氿汜沆汯泚洄涇浯"),
  (116,
    "涖涬淏淸淲淼渹湜渧渼溿澈澵濵瀅瀇瀨炅炫焏焄煜煆煇凞燁燾犱犾猤猪獷玽珉珖珣珒琇珵琦琪琩琮瑢璉璟甁畯皂皜皞皛皦益睆劯砡硎硤硺礰礼神祥禔福禛竑竧靖竫箞精絈絜綷綠緖繒罇羡羽茁荢荿菇菶葈蒴蕓蕙蕫﨟薰"),
  (117,
    "蘒﨡蠇裵訒訷詹誧誾諟諸諶譓譿賰賴贒赶﨣軏﨤逸遧郞都鄕鄧釚釗釞釭釮釤釥鈆鈐鈊鈺鉀鈼鉎鉙鉑鈹鉧銧鉷鉸鋧鋗鋙鋐﨧鋕鋠鋓錥錡鋻﨨錞鋿錝錂鍰鍗鎤鏆鏞鏸鐱鑅鑈閒隆﨩隝隯霳霻靃靍靏靑靕顗顥飯飼餧館馞驎髙"),
  (118, "髜魵魲鮏鮱鮻鰀鵰鵫鶴鸙黑")]

def retaken : List (Char × Char) :=
  [('〜', '～'), ('‖', '∥'), ('−', '－'), ('¢', '￠'), ('£', '￡'), ('¬', '￢')]

/-- The character of a cell. Twenty rows are for private use. -/
def char? (row column : Nat) : Option Char :=
  if 94 ≤ row ∧ row < 114 then some (Char.ofNat (0xE000 + (row - 94) * 94 + column))
  else
    match addedRows.lookup row with
    | some added => Grid.char? ⟨#[added]⟩ 0 column
    | none => (Grid.jis208.char? row column).map fun c => (retaken.lookup c).getD c

def single? (byte : Nat) : Option Char :=
  if byte ≤ 0x80 then some (Char.ofNat byte)
  else if byte = 0xA0 then some (Char.ofNat 0xF8F0)
  else if 0xFD ≤ byte then some (Char.ofNat (0xF8F1 + (byte - 0xFD)))
  else halfKatakana? byte

end Windows932

def windows932 : Paired where
  single? := Windows932.single?
  isLead _ := true
  pair? lead trail := (Shifted.cell? lead trail).bind fun (row, column) =>
    Windows932.char? row column

/-- What comes next where cells are marked by the highest bit. One byte announces katakana of half
width, another a cell of the supplement. -/
def nextMarkedJis (byte : Nat) (rest : List Nat) : Reading Unit :=
  match Paired.ascii? byte, rest with
  | some c, _ => .found [some c] 0 ()
  | none, [] => .cut
  | none, second :: others =>
    if byte = 0x8E then .ofChar? (halfKatakana? second) 1
    else if byte = 0x8F then
      match others with
      | [] => .cut
      | third :: _ => .ofChar? (Grid.jis212.marked? second third) 2
    else .ofChar? (Grid.jis208.marked? byte second) 1

def markedJis : Wide Unit where
  start := ()
  next _ := nextMarkedJis

end RequestChain.Charset
