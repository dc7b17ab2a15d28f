import ReflectCalc.Text.Basic

/-!
# The client page

A page for browsers: one line for a command, one button, and a place for the answer.
-/

namespace ReflectCalc

/-- The lines of the client page. -/
def clientPageLines : List Text := [
  "<!DOCTYPE html>",
  "<html>",
  "<head>",
  "<meta charset=\"UTF-8\">",
  "<title>Reflective Calculator</title>",
  "<style>",
  "body\x7bfont-family:Arial,Helvetica,sans-serif;margin:20px\x7d",
  "#cmd\x7bwidth:80%\x7d",
  "#out\x7bwhite-space:pre-wrap;border:1px solid #ccc;padding:10px;border-radius:6px\x7d",
  "</style>",
  "</head>",
  "<body>",
  "<h1>Reflective Calculator</h1>",
  "<p>Commands: Class(...), invoke(...), unaryInvoke(...), binaryInvoke(...)</p>",
  "<input id=\"cmd\" placeholder=\"Class(java.lang.Math)\" onkeydown=\"if(event.key==='Enter')\x7bsend()\x7d\">",
  "<button onclick=\"send()\">Send</button>",
  "<pre id=\"out\"></pre>",
  "<script>",
  "function send() \x7b",
  "  var c = document.getElementById('cmd').value;",
  "  fetch('/consulta?comando=' + encodeURIComponent(c))",
  "    .then(function (r) \x7b return r.text(); \x7d)",
  "    .then(function (t) \x7b document.getElementById('out').textContent = t; \x7d)",
  "    .catch(function (e) \x7b document.getElementById('out').textContent = String(e); \x7d);",
  "\x7d",
  "</script>",
  "</body>",
  "</html>"]

/-- The client page. Every line has a line end. -/
def clientPage : Text := clientPageLines.flatMap fun line => line ++ ['\n']

end ReflectCalc
