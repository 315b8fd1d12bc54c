/-! # Markup snippets

Templates for the elements of HTML documents.
-/

namespace Shorthand.Builtin

def htmlSnippets : List (String × String) := [
  ("a", "a[href]"),
  ("a:blank", "a[href='http://$\x7b0\x7d' target='_blank' rel='noopener noreferrer']"),
  ("a:link", "a[href='http://$\x7b0\x7d']"),
  ("a:mail", "a[href='mailto:$\x7b0\x7d']"),
  ("abbr", "abbr[title]"),
  ("acr|acronym", "acronym[title]"),
  ("base", "base[href]/"),
  ("basefont", "basefont/"),
  ("br", "br/"),
  ("frame", "frame/"),
  ("hr", "hr/"),
  ("bdo", "bdo[dir]"),
  ("bdo:r", "bdo[dir=rtl]"),
  ("bdo:l", "bdo[dir=ltr]"),
  ("col", "col/"),
  ("link", "link[rel=stylesheet href]/"),
  ("link:css", "link[href='$\x7b1:style\x7d.css']"),
  ("link:print", "link[href='$\x7b1:print\x7d.css' media=print]"),
  ("link:favicon", "link[rel='shortcut icon' type=image/x-icon href='$\x7b1:favicon.ico\x7d']"),
  ("link:touch", "link[rel=apple-touch-icon href='$\x7b1:favicon.png\x7d']"),
  ("link:rss",
    "link[rel=alternate type=application/rss+xml title=RSS href='$\x7b1:rss.xml\x7d']"),
  ("meta", "meta/"),
  ("meta:utf", "meta[http-equiv=Content-Type content='text/html;charset=UTF-8']"),
  ("meta:vp",
    "meta[name=viewport content='width=$\x7b1:device-width\x7d, initial-scale=$\x7b2:1.0\x7d']"),
  ("meta:compat", "meta[http-equiv=X-UA-Compatible content='$\x7b1:IE=7\x7d']"),
  ("meta:redirect", "meta[http-equiv=refresh content='0; url=$\x7b1:http://example.com\x7d']"),
  ("style", "style"),
  ("script", "script[!src]"),
  ("script:src", "script[src]"),
  ("img", "img[src alt]/"),
  ("img:s|img:srcset", "img[srcset src alt]"),
  ("img:z|img:sizes", "img[sizes srcset src alt]"),
  ("picture", "picture"),
  ("src|source", "source/"),
  ("src:sc|source:src", "source[src type]"),
  ("ifr|iframe", "iframe[src frameborder=0]"),
  ("emb|embed", "embed[src type]/"),
  ("obj|object", "object[data type]"),
  ("param", "param[name value]/"),
  ("map", "map[name]"),
  ("area", "area[shape coords href alt]/"),
  ("form", "form[action]"),
  ("form:get", "form[method=get]"),
  ("form:post", "form[method=post]"),
  ("label", "label[for]"),
  ("input", "input[type=$\x7b1:text\x7d]/"),
  ("inp", "input[name=$\x7b1\x7d id=$\x7b1\x7d]"),
  ("input:h|input:hidden", "input[type=hidden name]"),
  ("input:t|input:text", "inp[type=text]"),
  ("input:search", "inp[type=search]"),
  ("input:email", "inp[type=email]"),
  ("input:url", "inp[type=url]"),
  ("input:p|input:password", "inp[type=password]"),
  ("input:c|input:checkbox", "inp[type=checkbox]"),
  ("input:r|input:radio", "inp[type=radio]"),
  ("input:f|input:file", "inp[type=file]"),
  ("input:s|input:submit", "input[type=submit value]"),
  ("input:b|input:button", "input[type=button value]"),
  ("select", "select[name=$\x7b1\x7d id=$\x7b1\x7d]"),
  ("option", "option[value]"),
  ("textarea", "textarea[name=$\x7b1\x7d id=$\x7b1\x7d cols=$\x7b2:30\x7d rows=$\x7b3:10\x7d]"),
  ("btn", "button"),
  ("btn:s|button:s|button:submit", "button[type=submit]"),
  ("btn:r|button:r|button:reset", "button[type=reset]"),
  ("btn:d|button:d|button:disabled", "button[disabled.]"),
  ("fst|fset", "fieldset"),
  ("fst:d|fset:d", "fieldset[disabled.]"),
  ("optg", "optgroup"),
  ("tarea", "textarea"),
  ("leg", "legend"),
  ("sect", "section"),
  ("art", "article"),
  ("hdr", "header"),
  ("ftr", "footer"),
  ("adr", "address"),
  ("dlg", "dialog"),
  ("str", "strong"),
  ("prog", "progress"),
  ("mn", "main"),
  ("tem", "template"),
  ("datal", "datalist"),
  ("out", "output"),
  ("det", "details"),
  ("bq", "blockquote"),
  ("fig", "figure"),
  ("figc", "figcaption"),
  ("pic", "picture"),
  ("!!!", "\x7b<!DOCTYPE html>\x7d"),
  ("doc",
    "html[lang=$\x7blang\x7d]>(head>meta[charset=$\x7bcharset\x7d]+meta:vp+title\x7b$\x7b1:Document\x7d\x7d)+body"),
  ("!|html:5", "!!!+doc"),
  ("c", "\x7b<!-- $\x7b0\x7d -->\x7d"),
  ("cc:ie", "\x7b<!--[if IE]>$\x7b0\x7d<![endif]-->\x7d"),
  ("cc:noie", "\x7b<!--[if !IE]><!-->$\x7b0\x7d<!--<![endif]-->\x7d"),
  ("ol+", "ol>li"),
  ("ul+", "ul>li"),
  ("dl+", "dl>dt+dd"),
  ("map+", "map>area"),
  ("table+", "table>tr>td"),
  ("colgroup+|colg+", "colgroup>col"),
  ("tr+", "tr>td"),
  ("select+", "select>option"),
  ("optgroup+|optg+", "optgroup>option"),
  ("pic+", "picture>source:srcset+img")]

end Shorthand.Builtin
