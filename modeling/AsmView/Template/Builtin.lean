/-
# The built-in pages

The pages used when no template directory is given, line by line.  Each holds the
marker once, where the payload goes.
-/

namespace AsmView.Template

/-- The bar chart page. -/
def barPage : List String := [
  "<!DOCTYPE html>",
  "<html>",
  "<head>",
  "<meta charset=\"utf-8\">",
  "<title>function metrics</title>",
  "<style>",
  "  body \x7b margin: 0; font-family: monospace; background: transparent; \x7d",
  "  .bar \x7b display: flex; align-items: center; margin: 2px 4px; \x7d",
  "  .bar span \x7b width: 4em; \x7d",
  "  .bar div \x7b height: 10px; background: #3a7bd5; \x7d",
  "</style>",
  "</head>",
  "<body>",
  "<div id=\"chart\"></div>",
  "<script>",
  "  var labels = [\"cc\", \"calls\", \"blocks\", \"xrefs\", \"exits\"];",
  "  var values = [\x7b\x7bpayload\x7d\x7d].map(Number);",
  "  var max = Math.max.apply(null, values.concat([1]));",
  "  var chart = document.getElementById(\"chart\");",
  "  values.forEach(function (value, idx) \x7b",
  "    var row = document.createElement(\"div\");",
  "    row.className = \"bar\";",
  "    row.innerHTML = \"<span>\" + labels[idx] + \"</span><div style=\\\"width:\" + (value / max * 80) + \"%\\\"></div>\";",
  "    chart.appendChild(row);",
  "  \x7d);",
  "</script>",
  "</body>",
  "</html>"]

/-- The radial chart page. -/
def radialPage : List String := [
  "<!DOCTYPE html>",
  "<html>",
  "<head>",
  "<meta charset=\"utf-8\">",
  "<title>function metrics</title>",
  "</head>",
  "<body style=\"margin:0\">",
  "<svg id=\"radar\" viewBox=\"-110 -110 220 220\" width=\"100%\" height=\"100%\"></svg>",
  "<script>",
  "  var values = [\x7b\x7bpayload\x7d\x7d];",
  "  var max = Math.max.apply(null, values.concat([1]));",
  "  var points = values.map(function (value, idx) \x7b",
  "    var angle = (Math.PI * 2 * idx) / values.length - Math.PI / 2;",
  "    var r = (value / max) * 100;",
  "    return (Math.cos(angle) * r).toFixed(1) + \",\" + (Math.sin(angle) * r).toFixed(1);",
  "  \x7d);",
  "  var poly = document.createElementNS(\"http://www.w3.org/2000/svg\", \"polygon\");",
  "  poly.setAttribute(\"points\", points.join(\" \"));",
  "  poly.setAttribute(\"fill\", \"rgba(58,123,213,0.4)\");",
  "  poly.setAttribute(\"stroke\", \"#3a7bd5\");",
  "  document.getElementById(\"radar\").appendChild(poly);",
  "</script>",
  "</body>",
  "</html>"]

/-- The graph page. -/
def graphPage : List String := [
  "<!DOCTYPE html>",
  "<html>",
  "<head>",
  "<meta charset=\"utf-8\">",
  "<title>function graph</title>",
  "</head>",
  "<body style=\"margin:0\">",
  "<pre id=\"graph\"></pre>",
  "<script>",
  "  var description = \x7b\x7bpayload\x7d\x7d;",
  "  document.getElementById(\"graph\").textContent = description;",
  "</script>",
  "</body>",
  "</html>"]

end AsmView.Template
