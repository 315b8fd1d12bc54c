/-! # Stylesheet snippets

Templates for properties and at-rules; alternatives of a value stand between bars.
-/

namespace Shorthand.Builtin

def cssSnippets : List (String × String) := [
  ("@f", "@font-face \x7b\n\tfont-family: $\x7b1\x7d;\n\tsrc: url($\x7b1\x7d);\n\x7d"),
  ("@i|@import", "@import url($\x7b0\x7d);"),
  ("@kf|@k", "@keyframes $\x7b1:identifier\x7d \x7b\n\t$\x7b0\x7d\n\x7d"),
  ("@m|@media", "@media $\x7b1:screen\x7d \x7b\n\t$\x7b0\x7d\n\x7d"),
  ("ac", "align-content:flex-start|flex-end|center|space-between|space-around|stretch"),
  ("ai", "align-items:flex-start|flex-end|center|baseline|stretch"),
  ("as", "align-self:auto|flex-start|flex-end|center|baseline|stretch"),
  ("b", "bottom"),
  ("bd", "border:$\x7b1:1px\x7d $\x7b2:solid\x7d $\x7b3:#000\x7d"),
  ("bdb", "border-bottom:$\x7b1:1px\x7d $\x7b2:solid\x7d $\x7b3:#000\x7d"),
  ("bdc", "border-color:$\x7b1:#000\x7d"),
  ("bdrs", "border-radius"),
  ("bdt", "border-top:$\x7b1:1px\x7d $\x7b2:solid\x7d $\x7b3:#000\x7d"),
  ("bg", "background:#$\x7b1:000\x7d"),
  ("bgc", "background-color:#$\x7b1:fff\x7d"),
  ("bgi", "background-image:url($\x7b0\x7d)"),
  ("bgp", "background-position"),
  ("bgr", "background-repeat:repeat|repeat-x|repeat-y|no-repeat|space|round"),
  ("bgsz", "background-size:contain|cover"),
  ("bxsh",
    "box-shadow:$\x7b1:inset \x7d$\x7b2:hoff\x7d $\x7b3:voff\x7d $\x7b4:blur\x7d $\x7b5:#000\x7d|none"),
  ("bxz", "box-sizing:border-box|content-box"),
  ("c", "color:#$\x7b1:000\x7d"),
  ("cl", "clear:both|left|right|none"),
  ("cnt", "content:'$\x7b0\x7d'|normal|open-quote|no-open-quote|close-quote|no-close-quote"),
  ("cur", "cursor:pointer|auto|default|crosshair|hand|help|move|text"),
  ("d", "display:block|none|flex|inline-flex|inline|inline-block|grid|inline-grid|table"),
  ("ff", "font-family:serif|sans-serif|cursive|fantasy|monospace"),
  ("fl", "float:left|right|none"),
  ("fs", "font-style:italic|normal|oblique"),
  ("fw", "font-weight:normal|bold|bolder|lighter"),
  ("fx", "flex"),
  ("fxd", "flex-direction:row|row-reverse|column|column-reverse"),
  ("fxw", "flex-wrap:nowrap|wrap|wrap-reverse"),
  ("fz", "font-size"),
  ("gd", "grid"),
  ("gtc", "grid-template-columns:repeat()|minmax()"),
  ("gtr", "grid-template-rows:repeat()|minmax()"),
  ("h", "height"),
  ("jc", "justify-content:flex-start|flex-end|center|space-between|space-around"),
  ("l", "left"),
  ("lg", "background-image:linear-gradient($\x7b1\x7d)"),
  ("lh", "line-height"),
  ("lis", "list-style:none"),
  ("lts", "letter-spacing:normal"),
  ("m", "margin"),
  ("mb", "margin-bottom"),
  ("ml", "margin-left"),
  ("mr", "margin-right"),
  ("mt", "margin-top"),
  ("mah", "max-height"),
  ("maw", "max-width"),
  ("mih", "min-height"),
  ("miw", "min-width"),
  ("op", "opacity"),
  ("ov", "overflow:hidden|visible|scroll|auto"),
  ("ovx", "overflow-x:hidden|auto|scroll|visible"),
  ("ovy", "overflow-y:hidden|auto|scroll|visible"),
  ("p", "padding"),
  ("pb", "padding-bottom"),
  ("pl", "padding-left"),
  ("pr", "padding-right"),
  ("pt", "padding-top"),
  ("pos", "position:relative|absolute|fixed|static"),
  ("r", "right"),
  ("t", "top"),
  ("ta", "text-align:left|center|right|justify"),
  ("td", "text-decoration:none|underline|overline|line-through"),
  ("ti", "text-indent"),
  ("trf", "transform"),
  ("trs", "transition:$\x7b1:prop\x7d $\x7b2:time\x7d"),
  ("tt", "text-transform:uppercase|lowercase|capitalize|none"),
  ("us", "user-select:none"),
  ("v", "visibility:hidden|visible|collapse"),
  ("va", "vertical-align:top|super|text-top|middle|baseline|bottom|text-bottom|sub"),
  ("w", "width"),
  ("whs|wsp", "white-space:nowrap|pre|pre-wrap|pre-line|normal"),
  ("wob", "word-break:normal|keep-all|break-all"),
  ("z", "z-index"),
  ("!", "!important")]

end Shorthand.Builtin
